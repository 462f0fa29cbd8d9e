import KeywordFinder.Proofs.Files.Entries
import KeywordFinder.Proofs.Scan.Lines
import KeywordFinder.Scan.Scanner
import KeywordFinder.Walk

/-!
# Bytes that a tree does not hold

A byte other than a dot or a slash that stands in no name and in no file of a tree stands in no path that leads
somewhere (`FileSystem.not_mem_of_resolve`), in no path that a walk lists (`FileSystem.not_mem_walk`) and in no line
that is read (`FileSystem.not_mem_linesRead`).  Links may lead through any names, for what is shown of a link is its own
name.
-/

namespace KeywordFinder

/-! ### Trees without a byte -/

/-- Whether no name and no content in a listing holds the byte. -/
def Listing.Lacks (b : UInt8) : Listing → Prop
  | .empty => True
  | .file name content rest => b ∉ name ∧ b ∉ content ∧ rest.Lacks b
  | .link name _ rest => b ∉ name ∧ rest.Lacks b
  | .dir name children rest => b ∉ name ∧ children.Lacks b ∧ rest.Lacks b

instance (b : UInt8) : (l : Listing) → Decidable (l.Lacks b)
  | .empty => inferInstanceAs (Decidable True)
  | .file _ _ rest =>
    have := instDecidableLacks b rest
    inferInstanceAs (Decidable (_ ∧ _ ∧ rest.Lacks b))
  | .link _ _ rest =>
    have := instDecidableLacks b rest
    inferInstanceAs (Decidable (_ ∧ rest.Lacks b))
  | .dir _ children rest =>
    have := instDecidableLacks b children
    have := instDecidableLacks b rest
    inferInstanceAs (Decidable (_ ∧ children.Lacks b ∧ rest.Lacks b))

/-- Whether no name and no content below an entry, or in it, holds the byte. -/
def Entry.Lacks (b : UInt8) : Entry → Prop
  | .file content => b ∉ content
  | .link _ => True
  | .dir children => children.Lacks b

namespace Listing

variable {b : UInt8} {l : Listing} {e : Entry} {name : Bytes} {names : List Bytes}

private theorem lacks_cons {rest : Listing} :
    (cons name e rest).Lacks b ↔ b ∉ name ∧ e.Lacks b ∧ rest.Lacks b := by
  cases e <;> simp [cons, Lacks, Entry.Lacks]

private theorem Lacks.of_get? (hl : l.Lacks b) (h : l.get? name = some e) : b ∉ name ∧ e.Lacks b := by
  induction l using consInduction with
  | empty => cases h
  | cons name' e' rest _ ih =>
    obtain ⟨hname, he, hrest⟩ := lacks_cons.1 hl
    rw [get?_cons] at h
    split at h
    · next heq =>
      cases h
      exact ⟨heq ▸ hname, he⟩
    · exact ih hrest h

theorem Lacks.of_entryAt? (hl : l.Lacks b) (h : l.entryAt? names = some e) : (∀ n ∈ names, b ∉ n) ∧ e.Lacks b :=
  forall_of_entryAt? (fun _ _ _ hc he => of_get? hc he) hl h

end Listing

/-! ### Paths that lead somewhere -/

namespace Path

variable {b : UInt8} {p q : Path}

theorem exists_mem_components (hslash : b ≠ slash) (h : b ∈ p) : ∃ c ∈ components p, b ∈ c := by
  induction p with
  | nil => cases h
  | cons a p ih =>
    rw [components]
    split
    · next ha =>
      have hp : b ∈ p := (List.mem_cons.1 h).resolve_left fun hb => hslash (hb.trans ha)
      obtain ⟨c, hc, hb⟩ := ih hp
      exact ⟨c, List.mem_cons_of_mem _ hc, hb⟩
    · rcases List.mem_cons.1 h with rfl | hp
      · split
        · exact ⟨_, List.mem_cons_self, List.mem_cons_self⟩
        · exact ⟨_, List.mem_cons_self, List.mem_cons_self⟩
      · obtain ⟨c, hc, hb⟩ := ih hp
        split
        · next first rest hsplit =>
          rw [hsplit] at hc
          rcases List.mem_cons.1 hc with rfl | hc
          · exact ⟨_, List.mem_cons_self, List.mem_cons_of_mem a hb⟩
          · exact ⟨c, List.mem_cons_of_mem _ hc, hb⟩
        · next hsplit =>
          rw [hsplit] at hc
          cases hc

theorem not_mem_join (hslash : b ≠ slash) (hp : b ∉ p) (hq : b ∉ q) : b ∉ join p q := by
  rw [join]
  split
  · exact hq
  · split <;> simp [hp, hq, hslash]

end Path

namespace FileSystem

variable {b : UInt8} {fs : FileSystem} {p : Path}

private theorem not_mem_of_follow (hfs : fs.root.Lacks b) (hdot : b ≠ dot) {links : Nat}
    {here components names : List Bytes} (h : fs.follow links here components = .ok names) :
    ∀ c ∈ components, b ∉ c := by
  fun_induction FileSystem.follow fs links here components with
  | case1 => exact fun c hc => absurd hc List.not_mem_nil
  | case2 links here c rest hskip ih =>
    refine List.forall_mem_cons.2 ⟨?_, ih h⟩
    rcases hskip with rfl | rfl <;> simp [hdot]
  | case3 links here rest _ ih => exact List.forall_mem_cons.2 ⟨by simp [hdot], ih h⟩
  | case6 links here c rest _ _ _ children hdir ih =>
    exact List.forall_mem_cons.2 ⟨(hfs.of_entryAt? hdir).1 c (by simp), ih h⟩
  | case7 links here c rest _ _ _ content hfile hlast =>
    obtain rfl := List.isEmpty_iff.1 hlast
    simpa using (hfs.of_entryAt? hfile).1 c (by simp)
  | case10 here c rest _ _ _ target hlink links ih =>
    have hrest : ∀ d ∈ rest, b ∉ d := fun d hd => ih h d (List.mem_append_right _ hd)
    exact List.forall_mem_cons.2 ⟨(hfs.of_entryAt? hlink).1 c (by simp), hrest⟩
  | case4 | case5 | case8 | case9 => cases h

/-- Whatever a path passes through has its name in the tree. -/
theorem not_mem_of_resolve (hfs : fs.root.Lacks b) (hslash : b ≠ slash) (hdot : b ≠ dot) {names : List Bytes}
    (h : fs.resolve p = .ok names) : b ∉ p := by
  intro hb
  obtain ⟨c, hc, hmem⟩ := Path.exists_mem_components hslash hb
  rw [resolve] at h
  split at h
  · cases h
  · exact not_mem_of_follow hfs hdot h c hc hmem

/-- What is read at a path is the content of a file of the tree, if there is one. -/
theorem not_mem_linesRead (hfs : fs.root.Lacks b) : ∀ line ∈ linesRead (fs.readerOf p), b ∉ line := by
  intro line hline hb
  have hdelivered := mem_of_mem_linesRead hline hb
  rw [readerOf] at hdelivered
  split at hdelivered
  · next content hentry =>
    obtain ⟨names, -, hfile⟩ := Option.bind_eq_some_iff.1 hentry
    have hcontent : b ∉ content := (hfs.of_entryAt? hfile).2
    rw [delivered_inOneChunk] at hdelivered
    exact hcontent hdelivered
  · cases hdelivered
  · cases hdelivered

end FileSystem

/-! ### Walks -/

namespace Walker

variable {b : UInt8} {w : Walker} {place : WalkPlace} {l : Listing} {name : Bytes}

private theorem files_append (r r' : WalkResult) : (r ++ r').files = r.files ++ r'.files := rfl

private theorem not_mem_visit (hslash : b ≠ slash) (hplace : b ∉ place.path) (hname : b ∉ name) :
    ∀ f ∈ (w.visit place name).files, b ∉ f.path := by
  have hpath : b ∉ Path.join place.path name := Path.not_mem_join hslash hplace hname
  rw [visit]
  split
  · simp
  · split <;> simp [hpath]

private theorem not_mem_walkListing (hslash : b ≠ slash) (hplace : b ∉ place.path) (hl : l.Lacks b) :
    ∀ f ∈ (w.walkListing place l).files, b ∉ f.path := by
  induction l generalizing place with
  | empty => simp [walkListing]
  | file name content rest ih =>
    obtain ⟨hname, -, hrest⟩ := hl
    rw [walkListing, files_append]
    exact List.forall_mem_append.2 ⟨not_mem_visit hslash hplace hname, ih hplace hrest⟩
  | link name target rest ih =>
    obtain ⟨hname, hrest⟩ := hl
    rw [walkListing, files_append]
    refine List.forall_mem_append.2 ⟨?_, ih hplace hrest⟩
    split
    · exact not_mem_visit hslash hplace hname
    · simp
  | dir name children rest ihc ih =>
    obtain ⟨hname, hchildren, hrest⟩ := hl
    rw [walkListing, files_append]
    refine List.forall_mem_append.2 ⟨?_, ih hplace hrest⟩
    split
    · simp
    · exact ihc (Path.not_mem_join hslash hplace hname) hchildren

end Walker

namespace FileSystem

variable {b : UInt8} {fs : FileSystem}

/-- The paths that a walk lists are made of its root and of names in the tree. -/
theorem not_mem_walk (hfs : fs.root.Lacks b) (hslash : b ≠ slash) (hdot : b ≠ dot) (o : WalkOptions) (root : Path) :
    ∀ f ∈ (fs.walk o root).files, b ∉ f.path := by
  rw [walk]
  split
  · simp
  cases hresolve : fs.resolve root with
  | error fault => simp
  | ok names =>
    have hroot : b ∉ root := not_mem_of_resolve hfs hslash hdot hresolve
    dsimp only
    split
    · next children hdir =>
      have hchildren : children.Lacks b := (hfs.of_entryAt? hdir).2
      exact Walker.not_mem_walkListing hslash hroot hchildren
    · simp [hroot]

end FileSystem

end KeywordFinder
