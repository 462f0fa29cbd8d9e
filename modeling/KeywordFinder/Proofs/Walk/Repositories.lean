import KeywordFinder.Proofs.Ignore.Levels
import KeywordFinder.Proofs.Walk.Excludes
import Mathlib.Data.List.Infix

/-!
# Walks inside a repository

A walk that honors ignore files and has no other rules lists the files on whose way from its root no entry is ignored
by the rules of the directories from the root on (`FileSystem.mem_walk_files_iff_not_ignored`).  Rules of directories
above the root have no part in that.  So from a directory of a repository a walk lists what a walk of the whole
repository lists there, and besides that what only rules above the directory ignore
(`FileSystem.mem_walk_below_top_iff`).
-/

namespace KeywordFinder

namespace Walker

variable {w : Walker} {place : WalkPlace} {root : Path} {above below names : List Bytes} {name : Bytes} {l : Listing}

/-! ### Ways that are passed -/

/-- The place of a walk in the directory at names below another one. -/
def placeBelow (w : Walker) (place : WalkPlace) (names : List Bytes) : WalkPlace := names.foldl w.enter place

theorem placeBelow_path (names : List Bytes) : (w.placeBelow place names).path = Path.descend place.path names := by
  induction names generalizing place with
  | nil => rfl
  | cons name names ih => exact ih

/-- Whether a walk passes each entry on the way along names.  All but the last one are directories. -/
def PassesWay (w : Walker) (place : WalkPlace) (names : List Bytes) : Prop :=
  ∀ above name, above ++ [name] <+: names →
    w.passes (w.placeBelow place above) name (decide (above ++ [name] ≠ names)) = true

theorem passesWay_singleton : w.PassesWay place [name] ↔ w.passes place name false = true := by
  constructor
  · intro h
    simpa [placeBelow] using h [] name (List.prefix_refl _)
  · intro h above n hstart
    obtain ⟨rfl, rfl⟩ := concat_prefix_singleton hstart
    simpa [placeBelow] using h

theorem passesWay_cons (hne : names ≠ []) : w.PassesWay place (name :: names) ↔
    w.passes place name true = true ∧ w.PassesWay (w.enter place name) names := by
  constructor
  · intro h
    refine ⟨?_, fun above n hstart => ?_⟩
    · simpa [placeBelow, Ne.symm hne] using h [] name (List.prefix_append [name] names)
    · simpa [placeBelow] using h (name :: above) n (List.cons_prefix_cons.2 ⟨rfl, hstart⟩)
  · rintro ⟨hname, hmore⟩ above n hstart
    cases above with
    | nil =>
      obtain ⟨rfl, -⟩ := List.cons_prefix_cons.1 hstart
      simpa [placeBelow, Ne.symm hne] using hname
    | cons m above =>
      obtain ⟨rfl, hbelow⟩ := List.cons_prefix_cons.1 hstart
      simpa [placeBelow] using hmore above n hbelow

/-- Whether names lead from a place to a file on a way that a walk passes. -/
def PassesTo (w : Walker) (place : WalkPlace) (l : Listing) (names : List Bytes) : Prop :=
  (∃ e, l.entryAt? names = some e ∧ e.IsFile (w.files.isFile (Path.descend place.path names))) ∧
    w.PassesWay place names

private theorem PassesTo.ne_nil (h : w.PassesTo place l names) : names ≠ [] := by
  rintro rfl
  obtain ⟨⟨e, hentry, hfile⟩, -⟩ := h
  cases hentry
  exact hfile

/-- One entry of a listing: names lead to it or lie below it, or they lead to a later entry. -/
private theorem passesTo_cons {e : Entry} {rest : Listing} (hnew : rest.get? name = none) :
    w.PassesTo place (.cons name e rest) names ↔
      (w.passes place name e.isDir = true ∧ (e.IsFile (w.leadsToFile place name) ∧ names = [name] ∨
        ∃ children below, e = .dir children ∧ names = name :: below ∧ w.PassesTo (w.enter place name) children below)) ∨
      w.PassesTo place rest names := by
  cases names with
  | nil =>
    constructor
    · exact fun h => absurd rfl h.ne_nil
    · rintro (⟨-, ⟨-, h⟩ | ⟨_, _, -, h, -⟩⟩ | h)
      · cases h
      · cases h
      · exact absurd rfl h.ne_nil
  | cons n below =>
    have hpath : Path.descend place.path (n :: below) = Path.descend (w.enter place n).path below := rfl
    by_cases hname : name = n
    · subst hname
      have hrest : ¬ w.PassesTo place rest (name :: below) := by
        rintro ⟨⟨e', hentry, -⟩, -⟩
        rw [Listing.entryAt?_cons, hnew] at hentry
        cases hentry
      have hentry : (Listing.cons name e rest).entryAt? (name :: below) = e.below? below := by
        rw [Listing.entryAt?_cons, Listing.get?_cons, if_pos rfl, Option.bind_some]
      rw [or_iff_left hrest, PassesTo, hentry]
      cases below with
      | nil =>
        -- the last name of a way leads to no directory, so the entry is passed as a file
        have hdir : e.IsFile (w.leadsToFile place name) → e.isDir = false := by
          cases e with
          | dir children => exact False.elim
          | file content | link target => exact fun _ => rfl
        rw [passesWay_singleton, Entry.below?_nil]
        constructor
        · rintro ⟨⟨e', he', hfile⟩, hpasses⟩
          cases he'
          exact ⟨hdir hfile ▸ hpasses, .inl ⟨hfile, rfl⟩⟩
        · rintro ⟨hpasses, ⟨hfile, -⟩ | ⟨children, more, rfl, hmore, hto⟩⟩
          · exact ⟨⟨e, rfl, hfile⟩, hdir hfile ▸ hpasses⟩
          · cases hmore
            exact absurd rfl hto.ne_nil
      | cons m more =>
        rw [passesWay_cons (List.cons_ne_nil m more), hpath]
        constructor
        · rintro ⟨⟨e', he', hfile⟩, hpasses, hway⟩
          obtain ⟨children, rfl, hbelow⟩ := Entry.below?_cons_eq_some_iff.1 he'
          exact ⟨hpasses, .inr ⟨children, m :: more, rfl, rfl, ⟨e', hbelow, hfile⟩, hway⟩⟩
        · rintro ⟨hpasses, ⟨-, hmore⟩ | ⟨children, below, rfl, hmore, ⟨e', hbelow, hfile⟩, hway⟩⟩
          · cases hmore
          · cases hmore
            exact ⟨⟨e', hbelow, hfile⟩, hpasses, hway⟩
    · have hentry : (Listing.cons name e rest).entryAt? (n :: below) = rest.entryAt? (n :: below) := by
        rw [Listing.entryAt?_cons, Listing.get?_cons, if_neg hname, ← Listing.entryAt?_cons]
      rw [PassesTo, hentry, ← PassesTo, or_iff_right]
      rintro ⟨-, ⟨-, hnames⟩ | ⟨children, more, -, hnames, -⟩⟩
      · exact hname (List.cons.inj hnames).1.symm
      · exact hname (List.cons.inj hnames).1.symm

/-- A walk passes the files that names lead to on a way that it passes. -/
theorem mem_passed_iff (hl : l.WellFormed) :
    names ∈ w.passed place above l ↔ ∃ below, names = above ++ below ∧ w.PassesTo place l below := by
  induction l using Listing.consInduction generalizing place above with
  | empty =>
    constructor
    · intro h
      cases h
    · rintro ⟨below, -, h⟩
      obtain ⟨n, below, rfl⟩ := List.exists_cons_of_ne_nil h.ne_nil
      obtain ⟨⟨e, hentry, -⟩, -⟩ := h
      cases hentry
  | cons name e rest ihc ih =>
    obtain ⟨-, hnew, he, hrest⟩ := Listing.wellFormed_cons.1 hl
    simp only [mem_passed_cons, passesTo_cons hnew, ih hrest]
    constructor
    · rintro (⟨hpasses, ⟨hfile, rfl⟩ | ⟨children, rfl, hbelow⟩⟩ | ⟨below, rfl, hbelow⟩)
      · exact ⟨[name], rfl, .inl ⟨hpasses, .inl ⟨hfile, rfl⟩⟩⟩
      · obtain ⟨below, rfl, hto⟩ := (ihc children rfl he).1 hbelow
        exact ⟨name :: below, by simp, .inl ⟨hpasses, .inr ⟨children, below, rfl, rfl, hto⟩⟩⟩
      · exact ⟨below, rfl, .inr hbelow⟩
    · rintro ⟨below, rfl, ⟨hpasses, ⟨hfile, rfl⟩ | ⟨children, more, rfl, rfl, hbelow⟩⟩ | hbelow⟩
      · exact .inl ⟨hpasses, .inl ⟨hfile, rfl⟩⟩
      · exact .inl ⟨hpasses, .inr ⟨children, rfl, (ihc children rfl he).2 ⟨more, by simp, hbelow⟩⟩⟩
      · exact .inr ⟨below, rfl, hbelow⟩

end Walker

/-- A walk that honors ignore files and leaves out nothing else. -/
structure WalkOptions.OnlyIgnoreFiles (o : WalkOptions) : Prop where
  honors : o.honorIgnoreFiles = true
  no_excludes : o.excludes = []
  not_hidden : o.skipHidden = false
  unlimited : o.maxDepth = none

namespace FileSystem

variable {fs : FileSystem} {o : WalkOptions} {root top : Path} {children : Listing} {f : WalkedFile}
  {place names above below more : List Bytes} {name : Bytes} {isDir : Bool}

/-! ### Rules from a root on -/

/-- The rules of the directory at names below a root and of the directories above it up to the root, the nearest
first. -/
def levelsAt (fs : FileSystem) (root : Path) (names : List Bytes) : List IgnoreLevel :=
  names.inits.reverse.map fun above => fs.ignoreLevel (Path.descend root above)

theorem levelsAt_concat (fs : FileSystem) (root : Path) (names : List Bytes) (name : Bytes) :
    fs.levelsAt root (names ++ [name]) =
      fs.ignoreLevel (Path.descend root (names ++ [name])) :: fs.levelsAt root names := by
  rw [levelsAt, List.inits_append]
  simp [levelsAt]

/-- The rules below a directory are those from the directory on and those above it. -/
theorem levelsAt_append (fs : FileSystem) (root : Path) (hne : names ≠ []) (more : List Bytes) :
    fs.levelsAt root (names ++ more) =
      fs.levelsAt (Path.descend root names) more ++ fs.levelsAt root names.dropLast := by
  induction more using List.reverseRecOn with
  | nil =>
    obtain ⟨front, name, rfl⟩ : ∃ front name, names = front ++ [name] :=
      ⟨_, _, (List.dropLast_concat_getLast hne).symm⟩
    rw [List.append_nil, levelsAt_concat, List.dropLast_concat]
    rfl
  | append_singleton more name ih =>
    rw [← List.append_assoc, levelsAt_concat, ih, levelsAt_concat, List.cons_append, List.append_assoc]
    simp [Path.descend]

/-- Whether an entry of the directory at names below a root is ignored by the rules from the root on. -/
def Ignores (fs : FileSystem) (root : Path) (above : List Bytes) (name : Bytes) (isDir : Bool) : Prop :=
  IgnoreLevel.verdict? true (fs.levelsAt root above) (Path.descend root (above ++ [name])) isDir = some .drop

/-- The rules of a walk behind names are those from its root on. -/
private theorem placeBelow_levels {w : Walker} (hhonors : w.options.honorIgnoreFiles = true) (above : List Bytes) :
    (w.placeBelow ⟨root, [], 1, w.levelOf root⟩ above).levels = w.files.levelsAt root above := by
  have hlevel : ∀ path, w.levelOf path = [w.files.ignoreLevel path] := fun path => if_pos hhonors
  induction above using List.reverseRecOn with
  | nil => exact hlevel root
  | append_singleton above name ih =>
    have henter : w.placeBelow ⟨root, [], 1, w.levelOf root⟩ (above ++ [name]) =
        w.enter (w.placeBelow ⟨root, [], 1, w.levelOf root⟩ above) name := List.foldl_append
    have hlevels : ∀ place, (w.enter place name).levels = w.levelOf (Path.join place.path name) ++ place.levels :=
      fun _ => rfl
    rw [henter, hlevels, ih, hlevel, Walker.placeBelow_path, levelsAt_concat, Path.descend_concat]
    rfl

/-- A walk with no other rules passes the entries that are not ignored. -/
private theorem passes_iff {w : Walker} (ho : w.options.OnlyIgnoreFiles) (hexcluded : w.excluded = w.options.excludeSet)
    (hinside : (w.files.ignoreLevel root).isTop = true ∨ w.insideRepository = true) :
    w.passes (w.placeBelow ⟨root, [], 1, w.levelOf root⟩ above) name isDir = true ↔
      ¬ w.files.Ignores root above name isDir := by
  have hreaches : ∀ depth, w.reaches depth = true := by
    intro depth
    rw [Walker.reaches, ho.unlimited]
  have hmatch : ∀ path, w.excluded.isMatch path = false := by
    intro path
    rw [hexcluded, WalkOptions.excludeSet, ho.no_excludes]
    rfl
  have hverdict : ∀ path, IgnoreLevel.verdict? w.insideRepository (w.files.levelsAt root above) path isDir =
      IgnoreLevel.verdict? true (w.files.levelsAt root above) path isDir := by
    intro path
    have hcounts : (w.insideRepository || (w.files.levelsAt root above).any (·.isTop)) = true := by
      rw [Bool.or_eq_true, List.any_eq_true]
      refine hinside.symm.imp_right fun htop => ⟨_, List.mem_map.2 ⟨[], ?_, rfl⟩, htop⟩
      exact List.mem_reverse.2 ((List.mem_inits _ _).2 List.nil_prefix)
    rw [IgnoreLevel.verdict?, if_pos hcounts]
    rfl
  rw [Walker.passes, Walker.drops, hreaches, hmatch, placeBelow_levels ho.honors, Walker.placeBelow_path,
    ← Path.descend_concat, hverdict, Ignores, ho.not_hidden]
  cases IgnoreLevel.verdict? true (w.files.levelsAt root above) (Path.descend root (above ++ [name])) isDir with
  | none => simp
  | some v => cases v <;> simp

/-- Whether names lead through a listing to a file that a walk lists if it gets there. -/
def LeadsToWanted (fs : FileSystem) (o : WalkOptions) (root : Path) (children : Listing) (names : List Bytes) : Prop :=
  (∃ e, children.entryAt? names = some e ∧ e.IsFile (fs.isFile (Path.descend root names))) ∧
    o.isWanted (Path.descend root names) = true

/-- Inside a repository, a walk with no other rules lists the files on whose way from its root nothing is ignored by
rules from the root on. -/
theorem mem_walk_files_iff_not_ignored (hfs : fs.WellFormed) (hname : root.trimmed ≠ bytes "-")
    (hroot : fs.resolve root = .ok place) (hdir : fs.root.entryAt? place = some (.dir children))
    (ho : o.OnlyIgnoreFiles) (hinside : (fs.ignoreLevel root).isTop = true ∨
      ∃ d ∈ directoriesAbove place, (fs.ignoreLevel d).isTop = true) (hf : f.IsAt root names) :
    f ∈ (fs.walk o root).files ↔ fs.LeadsToWanted o root children names ∧
      ∀ above name, above ++ [name] <+: names → ¬ fs.Ignores root above name (decide (above ++ [name] ≠ names)) := by
  let levels := (directoriesAbove place).map fs.ignoreLevel
  let w : Walker := ⟨o, o.excludeSet, fs, levels.any (·.isTop)⟩
  have hwf : children.WellFormed := (hfs.root.of_entryAt? hdir).2
  have hinside' : (w.files.ignoreLevel root).isTop = true ∨ w.insideRepository = true := by
    refine hinside.imp_right fun h => ?_
    simpa [w, levels] using h
  have hfiles : (fs.walk o root).files = (w.walkListing ⟨root, [], 1, w.levelOf root⟩ children).files := by
    have hinput : isStandardInput root = false := beq_eq_false_iff_ne.2 hname
    rw [walk, hinput, hroot]
    simp only [hdir, ho.honors, Bool.false_eq_true, if_false, if_true]
    exact List.nil_append _
  have hat : WalkPlace.IsAt ⟨root, [], 1, w.levelOf root⟩ root [] := ⟨rfl, rfl, rfl⟩
  rw [hfiles, Walker.walkListing_eq_yield_passed hat]
  simp only [Walker.yield, List.mem_map, List.mem_filter, Walker.mem_passed_iff hwf, Walker.PassesTo,
    Walker.PassesWay, passes_iff (w := w) ho rfl hinside', List.nil_append]
  constructor
  · rintro ⟨names', ⟨⟨below, rfl, hto, hway⟩, hwanted⟩, hsame⟩
    obtain ⟨e, hentry, hfile⟩ := hto
    obtain rfl : names' = names := WalkedFile.IsAt.unique ⟨(hwf.of_entryAt? hentry).1, hsame.symm⟩ hf
    exact ⟨⟨⟨e, hentry, hfile⟩, hwanted⟩, hway⟩
  · rintro ⟨⟨hto, hwanted⟩, hway⟩
    exact ⟨names, ⟨⟨names, rfl, hto, hway⟩, hwanted⟩, hf.eq.symm⟩

/-! ### A directory of a repository -/

theorem resolve_descend (hroot : fs.root.WellFormed) (htop : fs.resolve top = .ok place)
    (hdir : fs.root.entryAt? (place ++ names) = some (.dir children)) :
    fs.resolve (Path.descend top names) = .ok (place ++ names) := by
  by_cases hne : names = []
  · rw [hne, List.append_nil]
    exact htop
  · have hproper : ∀ n ∈ names, ProperName n := fun n hn =>
      (hroot.of_entryAt? hdir).1 n (List.mem_append_right _ hn)
    have hplace : ∃ c, fs.root.entryAt? place = some (.dir c) := by
      obtain ⟨n, ns, rfl⟩ := List.exists_cons_of_ne_nil hne
      rw [Listing.entryAt?_append] at hdir
      obtain ⟨e, he, hbelow⟩ := Option.bind_eq_some_iff.1 hdir
      obtain ⟨c, rfl, -⟩ := Entry.below?_cons_eq_some_iff.1 hbelow
      exact ⟨c, he⟩
    obtain ⟨left, hleft⟩ := fs.exists_resolve_join hplace htop
    rw [Path.descend_eq_join top hne hproper, hleft names hne hproper, follow_names hroot hdir (by simp)]

/-- The directory that holds a repository's data is at its top. -/
theorem isTop_of_repository (hroot : fs.root.WellFormed) (htop : fs.resolve top = .ok place) {data : Listing}
    (hgit : fs.root.entryAt? (place ++ [repositoryName]) = some (.dir data)) : (fs.ignoreLevel top).isTop = true := by
  have hexists : fs.pathExists (Path.join top repositoryName) = true :=
    pathExists_of_resolve (resolve_descend hroot htop hgit)
  show (_ || _) = true
  rw [hexists, Bool.true_or]

/-- The canonical path of a directory leads there. -/
theorem resolve_ofNames (hroot : fs.root.WellFormed) (hdir : fs.root.entryAt? names = some (.dir children)) :
    fs.resolve (Path.ofNames names) = .ok names := by
  have hbelow : fs.root.entryAt? ([] ++ names) = some (.dir children) := hdir
  have hfollow : fs.follow maxLinks [] names = .ok names := follow_names hroot hbelow (by simp) maxLinks
  have hempty : fs.move maxLinks [] [] = .on maxLinks [] [] := if_pos (.inl rfl)
  by_cases hne : names = []
  · rw [hne]
    exact resolve_of_followIn? 2 rfl rfl
  · have hpath : Path.ofNames names = slash :: Path.relative names := by
      rw [Path.ofNames, if_neg (by simpa using hne)]
      clear hdir hbelow hfollow
      induction names with
      | nil => exact absurd rfl hne
      | cons n names ih =>
        by_cases hnames : names = []
        · simp [hnames, Path.relative]
        · rw [List.flatMap_cons, ih hnames, Path.relative_cons n hnames, List.cons_append]
    have hcomponents : Path.components (slash :: Path.relative names) = [] :: names := by
      rw [Path.components, if_pos rfl, Path.components_relative hne (hroot.of_entryAt? hdir).1]
    rw [hpath, resolve, List.isEmpty_cons, if_neg (by simp), hcomponents, follow_cons]
    show fs.follow maxLinks _ _ = _
    exact hfollow

/-- The path of a directory below another one is not that of the standard input. -/
theorem trimmed_descend_ne (htop : top ≠ []) (hne : names ≠ []) (hproper : ∀ n ∈ names, ProperName n) :
    (Path.descend top names).trimmed ≠ bytes "-" := by
  obtain ⟨front, name, rfl⟩ : ∃ front name, names = front ++ [name] :=
    ⟨_, _, (List.dropLast_concat_getLast hne).symm⟩
  have hname : ProperName name := hproper name (by simp)
  have hfront : Path.descend top front ≠ [] := by
    clear hne hproper
    induction front generalizing top with
    | nil => exact htop
    | cons n front ih => exact ih (Path.join_ne_nil htop n)
  obtain ⟨before, hpath, hslash⟩ :
      ∃ before, Path.join (Path.descend top front) name = before ++ name ∧ slash ∈ before := by
    rw [Path.join_of_inner hname.inner hfront]
    split
    · next hlast => exact ⟨_, rfl, List.mem_of_getLast? hlast⟩
    · exact ⟨Path.descend top front ++ [slash], by simp, by simp⟩
  rw [Path.descend_concat, hpath, Path.trimmed_append_name hname]
  intro hhyphen
  have hmem : slash ∈ bytes "-" := hhyphen ▸ List.mem_append_left _ hslash
  exact absurd hmem (by decide)

private theorem prefix_append_iff {front : List Bytes} : above ++ [name] <+: front ++ below ↔
    above ++ [name] <+: front ∨ ∃ more, above = front ++ more ∧ more ++ [name] <+: below := by
  constructor
  · intro h
    rcases List.prefix_or_prefix_of_prefix h (List.prefix_append front below) with hstart | ⟨t, ht⟩
    · exact .inl hstart
    · rcases List.eq_nil_or_concat t with rfl | ⟨more, n, rfl⟩
      · rw [List.append_nil] at ht
        exact .inl (ht ▸ List.prefix_refl _)
      · rw [List.concat_eq_append, ← List.append_assoc] at ht
        obtain ⟨rfl, hlast⟩ := List.append_inj' ht rfl
        obtain rfl := (List.cons.inj hlast).1
        rw [List.append_assoc] at h
        exact .inr ⟨more, rfl, (List.prefix_append_right_inj front).1 h⟩
  · rintro (h | ⟨more, rfl, h⟩)
    · exact h.trans (List.prefix_append front below)
    · rw [List.append_assoc]
      exact (List.prefix_append_right_inj front).2 h

private theorem descend_below :
    Path.descend top (names ++ above ++ [name]) = Path.descend (Path.descend top names) (above ++ [name]) := by
  simp [Path.descend]

/-- What is ignored by the rules from a directory on is ignored by the rules from above it on. -/
theorem Ignores.of_below (hne : names ≠ []) (h : fs.Ignores (Path.descend top names) above name isDir) :
    fs.Ignores top (names ++ above) name isDir := by
  rw [Ignores, levelsAt_append fs top hne, descend_below]
  refine IgnoreLevel.verdict?_append_of_drop ?_ h
  intro level hlevel
  obtain ⟨d, -, rfl⟩ := List.mem_map.1 hlevel
  exact excludeRules_of_not_top fs _

/-- Rules above a directory that decide nothing have no part in what is ignored below it. -/
theorem ignores_iff_of_none (hne : names ≠ []) (h : IgnoreLevel.verdict? true (fs.levelsAt top names.dropLast)
      (Path.descend (Path.descend top names) (above ++ [name])) isDir = none) :
    fs.Ignores top (names ++ above) name isDir ↔ fs.Ignores (Path.descend top names) above name isDir := by
  rw [Ignores, Ignores, levelsAt_append fs top hne, descend_below, IgnoreLevel.verdict?_append_of_none h]

/-- If a directory is not ignored itself, a walk of the repository lists a file below it exactly if nothing on the way
from the directory on is ignored by the rules from the top on. -/
private theorem mem_walk_top_iff (hfs : fs.WellFormed) (hname : top.trimmed ≠ bytes "-")
    (htop : fs.resolve top = .ok place) {data : Listing}
    (hgit : fs.root.entryAt? (place ++ [repositoryName]) = some (.dir data))
    (hdir : fs.root.entryAt? (place ++ names) = some (.dir children)) (ho : o.OnlyIgnoreFiles)
    (hskipped : ∀ above name, above ++ [name] <+: names → ¬ fs.Ignores top above name true)
    (hbelow : ∀ n ∈ below, ProperName n) :
    ⟨Path.descend (Path.descend top names) below, names.length + below.length⟩ ∈ (fs.walk o top).files ↔
      fs.LeadsToWanted o (Path.descend top names) children below ∧ ∀ above name, above ++ [name] <+: below →
        ¬ fs.Ignores top (names ++ above) name (decide (above ++ [name] ≠ below)) := by
  obtain ⟨topChildren, hplace⟩ := Listing.exists_of_entryAt?_concat hgit
  have hnames : ∀ n ∈ names, ProperName n := fun n hn => (hfs.root.of_entryAt? hdir).1 n (List.mem_append_right _ hn)
  have hdescend : Path.descend top (names ++ below) = Path.descend (Path.descend top names) below := by
    simp [Path.descend]
  have hat : WalkedFile.IsAt ⟨Path.descend (Path.descend top names) below, names.length + below.length⟩ top
      (names ++ below) :=
    ⟨fun n hn => (List.mem_append.1 hn).elim (hnames n) (hbelow n), by rw [hdescend, List.length_append]⟩
  have hentry : ∀ more, topChildren.entryAt? (names ++ more) = children.entryAt? more := by
    rw [Listing.entryAt?_append, hplace] at hdir
    have hchildren : topChildren.entryAt? names = some (.dir children) := hdir
    intro more
    rw [Listing.entryAt?_append, hchildren]
    rfl
  have hto : fs.LeadsToWanted o top topChildren (names ++ below) ↔
      fs.LeadsToWanted o (Path.descend top names) children below := by
    rw [LeadsToWanted, LeadsToWanted, hentry, hdescend]
  rw [mem_walk_files_iff_not_ignored hfs hname htop hplace ho (.inl (isTop_of_repository hfs.root htop hgit)) hat, hto]
  refine and_congr_right fun hleads => ?_
  have hne' : below ≠ [] := by
    rintro rfl
    obtain ⟨⟨e, he, hfile⟩, -⟩ := hleads
    cases he
    exact hfile
  have hsame : ∀ more, decide (names ++ more ≠ names ++ below) = decide (more ≠ below) := fun more => by simp
  -- the way from the top has a part up to the directory, on which nothing is ignored, and the part below it
  constructor
  · intro hway above name hstart
    have hwhole := hway (names ++ above) name (prefix_append_iff.2 (.inr ⟨above, rfl, hstart⟩))
    rwa [List.append_assoc, hsame] at hwhole
  · intro hway above name hstart
    rcases prefix_append_iff.1 hstart with hfront | ⟨more, rfl, hmore⟩
    · have hshort : above ++ [name] ≠ names ++ below := by
        intro heq
        have hlength := hfront.length_le
        rw [heq, List.length_append] at hlength
        exact hne' (List.length_eq_zero_iff.1 (by omega))
      rw [decide_eq_true hshort]
      exact hskipped above name hfront
    · rw [List.append_assoc, hsame]
      exact hway more name hmore

/-- A walk of a directory below the top lists a file exactly if nothing on the way is ignored by the rules from the
directory on.  The top makes them count, although its own rules are not read. -/
private theorem mem_walk_directory_iff (hfs : fs.WellFormed) (htop : fs.resolve top = .ok place) {data : Listing}
    (hgit : fs.root.entryAt? (place ++ [repositoryName]) = some (.dir data)) (hne : names ≠ [])
    (hdir : fs.root.entryAt? (place ++ names) = some (.dir children)) (ho : o.OnlyIgnoreFiles)
    (hbelow : ∀ n ∈ below, ProperName n) :
    ⟨Path.descend (Path.descend top names) below, below.length⟩ ∈ (fs.walk o (Path.descend top names)).files ↔
      fs.LeadsToWanted o (Path.descend top names) children below ∧ ∀ above name, above ++ [name] <+: below →
        ¬ fs.Ignores (Path.descend top names) above name (decide (above ++ [name] ≠ below)) := by
  have hnames : ∀ n ∈ names, ProperName n := fun n hn => (hfs.root.of_entryAt? hdir).1 n (List.mem_append_right _ hn)
  obtain ⟨topChildren, hplace⟩ := Listing.exists_of_entryAt?_concat hgit
  have hcanonical : fs.resolve (Path.ofNames place) = .ok place := resolve_ofNames hfs.root hplace
  have habove : Path.ofNames place ∈ directoriesAbove (place ++ names) := by
    refine List.mem_map.2 ⟨place.length, ?_, by rw [List.take_left]⟩
    rw [List.mem_range, List.length_append]
    have hpos := List.length_pos_iff.2 hne
    omega
  have hne_top : top ≠ [] := by
    rintro rfl
    cases htop
  exact mem_walk_files_iff_not_ignored hfs (trimmed_descend_ne hne_top hne hnames)
    (resolve_descend hfs.root htop hdir) hdir ho (.inr ⟨_, habove, isTop_of_repository hfs.root hcanonical hgit⟩)
    ⟨hbelow, rfl⟩

/-- A walk of a repository and one that starts in a directory below the top, which is not ignored itself.  The walk of
the directory lists all that the walk of the top lists below it; besides that it lists the files on whose way from the
directory there is an entry that only rules above the directory ignore, because it does not read these.  So the two
walks agree on the files below the directory if the rules above it decide nothing there. -/
theorem mem_walk_below_top_iff (hfs : fs.WellFormed) (hname : top.trimmed ≠ bytes "-")
    (htop : fs.resolve top = .ok place) {data : Listing}
    (hgit : fs.root.entryAt? (place ++ [repositoryName]) = some (.dir data)) (hne : names ≠ [])
    (hdir : fs.root.entryAt? (place ++ names) = some (.dir children)) (ho : o.OnlyIgnoreFiles)
    (hskipped : ∀ above name, above ++ [name] <+: names → ¬ fs.Ignores top above name true) :
    let s := Path.descend top names
    (∀ below : List Bytes, (∀ n ∈ below, ProperName n) →
      (⟨Path.descend s below, names.length + below.length⟩ ∈ (fs.walk o top).files ↔
        ⟨Path.descend s below, below.length⟩ ∈ (fs.walk o s).files ∧ ∀ above name, above ++ [name] <+: below →
          ¬ fs.Ignores top (names ++ above) name (decide (above ++ [name] ≠ below)))) ∧
      ((∀ above name isDir, IgnoreLevel.verdict? true (fs.levelsAt top names.dropLast)
        (Path.descend s (above ++ [name])) isDir = none) → ∀ below : List Bytes, (∀ n ∈ below, ProperName n) →
          (⟨Path.descend s below, names.length + below.length⟩ ∈ (fs.walk o top).files ↔
            ⟨Path.descend s below, below.length⟩ ∈ (fs.walk o s).files)) := by
  intro s
  have hs : ∀ below : List Bytes, (∀ n ∈ below, ProperName n) →
      (⟨Path.descend s below, below.length⟩ ∈ (fs.walk o s).files ↔ fs.LeadsToWanted o s children below ∧
        ∀ above name, above ++ [name] <+: below → ¬ fs.Ignores s above name (decide (above ++ [name] ≠ below))) :=
    fun below hbelow => mem_walk_directory_iff hfs htop hgit hne hdir ho hbelow
  have htop_iff : ∀ below : List Bytes, (∀ n ∈ below, ProperName n) →
      (⟨Path.descend s below, names.length + below.length⟩ ∈ (fs.walk o top).files ↔
        fs.LeadsToWanted o s children below ∧ ∀ above name, above ++ [name] <+: below →
          ¬ fs.Ignores top (names ++ above) name (decide (above ++ [name] ≠ below))) :=
    fun below hbelow => mem_walk_top_iff hfs hname htop hgit hdir ho hskipped hbelow
  constructor
  · intro below hbelow
    rw [htop_iff below hbelow, hs below hbelow]
    constructor
    · rintro ⟨hto, hway⟩
      exact ⟨⟨hto, fun above name hstart hignores => hway above name hstart (hignores.of_below hne)⟩, hway⟩
    · rintro ⟨⟨hto, -⟩, hway⟩
      exact ⟨hto, hway⟩
  · intro hnone below hbelow
    rw [htop_iff below hbelow, hs below hbelow]
    simp only [ignores_iff_of_none hne (hnone _ _ _)]
    rfl

/-- A directory below the top of a repository whose `.gitignore` file drops a file in it. -/
def smallRepository : FileSystem where
  root := .dir (bytes "w")
    (.dir (bytes ".git") .empty <| .file (bytes ".gitignore") (bytes "gen.py\n") <|
      .dir (bytes "sub") (.file (bytes "a.py") [] <| .file (bytes "gen.py") [] .empty) .empty) .empty
  current := []

private theorem wellFormed_smallRepository : smallRepository.WellFormed := ⟨by decide, ⟨_, rfl⟩⟩

private theorem resolve_smallRepository : smallRepository.resolve (bytes "w") = .ok [bytes "w"] :=
  resolve_of_followIn? 1 rfl rfl

private theorem onlyIgnoreFiles_smallRepository : WalkOptions.OnlyIgnoreFiles ⟨["py".toList], [], true, false, none⟩ :=
  ⟨rfl, rfl, rfl, rfl⟩

private theorem ignoreLevel_smallRepository : smallRepository.ignoreLevel (bytes "w") =
    ⟨bytes "w", .parse (bytes "gen.py\n"), .empty, true⟩ := by
  have hrules : smallRepository.ignoreFile (Path.join (bytes "w") ignoreFileName) = .parse (bytes "gen.py\n") :=
    ignoreFile_of_resolve (resolve_of_followIn? 3 rfl rfl) rfl
  have hdata : smallRepository.resolve (Path.join (bytes "w") repositoryName) = .ok [bytes "w", bytes ".git"] :=
    resolve_of_followIn? 3 rfl rfl
  have hfile : smallRepository.isFile (Path.join (bytes "w") repositoryName) = false := by
    rw [isFile, entry?_of_resolve hdata]
    rfl
  have hexclude : smallRepository.ignoreFile
      (Path.join (Path.join (bytes "w") repositoryName) (bytes "info/exclude")) = .empty :=
    ignoreFile_of_error (resolve_of_followIn? 4 rfl rfl)
  simp only [ignoreLevel, hrules, repositoryData?_of_isFile hfile, hexclude, isRepositoryTop,
    pathExists_of_resolve hdata, Bool.true_or]

private theorem not_ignores_smallRepository : ∀ above name, above ++ [name] <+: [bytes "sub"] →
    ¬ smallRepository.Ignores (bytes "w") above name true := by
  intro above name hstart
  obtain ⟨rfl, rfl⟩ := concat_prefix_singleton hstart
  have hlevels : smallRepository.levelsAt (bytes "w") [] = [smallRepository.ignoreLevel (bytes "w")] := rfl
  rw [Ignores, hlevels, ignoreLevel_smallRepository]
  decide

/-- The directory of a repository in which a file is ignored by the top's rules alone. -/
theorem mem_walk_below_top_iff_small :
    let fs := smallRepository
    let o : WalkOptions := ⟨["py".toList], [], true, false, none⟩
    let top : Path := bytes "w"
    let s := Path.descend top [bytes "sub"]
    fs.WellFormed ∧ top.trimmed ≠ bytes "-" ∧ fs.resolve top = .ok [bytes "w"] ∧
      fs.root.entryAt? ([bytes "w"] ++ [repositoryName]) = some (.dir .empty) ∧ [bytes "sub"] ≠ [] ∧
      fs.root.entryAt? ([bytes "w"] ++ [bytes "sub"]) =
        some (.dir (.file (bytes "a.py") [] <| .file (bytes "gen.py") [] .empty)) ∧ o.OnlyIgnoreFiles ∧
      (∀ above name, above ++ [name] <+: [bytes "sub"] → ¬ fs.Ignores top above name true) ∧
      (∀ below : List Bytes, (∀ n ∈ below, ProperName n) →
        (⟨Path.descend s below, [bytes "sub"].length + below.length⟩ ∈ (fs.walk o top).files ↔
          ⟨Path.descend s below, below.length⟩ ∈ (fs.walk o s).files ∧ ∀ above name, above ++ [name] <+: below →
            ¬ fs.Ignores top ([bytes "sub"] ++ above) name (decide (above ++ [name] ≠ below)))) ∧
      ((∀ above name isDir, IgnoreLevel.verdict? true (fs.levelsAt top [bytes "sub"].dropLast)
        (Path.descend s (above ++ [name])) isDir = none) → ∀ below : List Bytes, (∀ n ∈ below, ProperName n) →
          (⟨Path.descend s below, [bytes "sub"].length + below.length⟩ ∈ (fs.walk o top).files ↔
            ⟨Path.descend s below, below.length⟩ ∈ (fs.walk o s).files)) := by
  intro fs o top s
  have hname : top.trimmed ≠ bytes "-" := by decide
  exact ⟨wellFormed_smallRepository, hname, resolve_smallRepository, rfl, List.cons_ne_nil _ _, rfl,
    onlyIgnoreFiles_smallRepository, not_ignores_smallRepository,
    mem_walk_below_top_iff wellFormed_smallRepository hname resolve_smallRepository rfl (List.cons_ne_nil _ _) rfl
      onlyIgnoreFiles_smallRepository not_ignores_smallRepository⟩

private theorem ignoreLevel_smallRepository_sub : smallRepository.ignoreLevel (bytes "w/sub") =
    ⟨bytes "w/sub", .empty, .empty, false⟩ := by
  have hrules : smallRepository.ignoreFile (Path.join (bytes "w/sub") ignoreFileName) = .empty :=
    ignoreFile_of_error (resolve_of_followIn? 4 rfl rfl)
  have htop : smallRepository.isRepositoryTop (bytes "w/sub") = false := by
    have hgit : smallRepository.resolve (Path.join (bytes "w/sub") repositoryName) = .error .notFound :=
      resolve_of_followIn? 4 rfl rfl
    have hjj : smallRepository.resolve (Path.join (bytes "w/sub") (bytes ".jj")) = .error .notFound :=
      resolve_of_followIn? 4 rfl rfl
    rw [isRepositoryTop, pathExists, pathExists, hgit, hjj]
    rfl
  have hexclude := excludeRules_of_not_top smallRepository (bytes "w/sub") htop
  rw [ignoreLevel] at hexclude ⊢
  simp only [hrules, htop]
  exact congrArg (IgnoreLevel.mk _ _ · _) hexclude

/-- A walk of a repository does not list a file that the top's `.gitignore` file drops, and one that starts in the
directory of the file does, although that directory is not ignored and no repository of its own. -/
theorem walk_below_top_lists_ignored :
    let fs := smallRepository
    let o : WalkOptions := ⟨["py".toList], [], true, false, none⟩
    fs.WellFormed ∧ fs.resolve (bytes "w") = .ok [bytes "w"] ∧
      fs.root.entryAt? [bytes "w", bytes ".git"] = some (.dir .empty) ∧
      fs.root.entryAt? [bytes "w", bytes "sub", bytes ".git"] = none ∧ o.OnlyIgnoreFiles ∧
      (∀ above name, above ++ [name] <+: [bytes "sub"] → ¬ fs.Ignores (bytes "w") above name true) ∧
      ⟨bytes "w/sub/gen.py", 1⟩ ∈ (fs.walk o (bytes "w/sub")).files ∧
      ⟨bytes "w/sub/gen.py", 2⟩ ∉ (fs.walk o (bytes "w")).files := by
  intro fs o
  have hfs : fs.WellFormed := wellFormed_smallRepository
  have htop : (fs.ignoreLevel (bytes "w")).isTop = true := by
    show (smallRepository.ignoreLevel (bytes "w")).isTop = true
    rw [ignoreLevel_smallRepository]
  have habove : (fs.ignoreLevel (bytes "/w")).isTop = true := by
    have hcanonical : fs.resolve (bytes "/w") = .ok [bytes "w"] := resolve_of_followIn? 2 rfl rfl
    have hgit : fs.root.entryAt? ([bytes "w"] ++ [repositoryName]) = some (.dir .empty) := rfl
    exact isTop_of_repository hfs.root hcanonical hgit
  refine ⟨hfs, resolve_smallRepository, rfl, rfl, onlyIgnoreFiles_smallRepository, not_ignores_smallRepository, ?_, ?_⟩
  · have hat : WalkedFile.IsAt ⟨bytes "w/sub/gen.py", 1⟩ (bytes "w/sub") [bytes "gen.py"] := ⟨by decide, by decide⟩
    have hsub : fs.resolve (bytes "w/sub") = .ok [bytes "w", bytes "sub"] := resolve_of_followIn? 2 rfl rfl
    refine (mem_walk_files_iff_not_ignored hfs (by decide) hsub rfl onlyIgnoreFiles_smallRepository
      (.inr ⟨bytes "/w", by decide, habove⟩) hat).2 ⟨⟨⟨.file [], rfl, trivial⟩, by decide⟩, ?_⟩
    intro above name hstart
    obtain ⟨rfl, rfl⟩ := concat_prefix_singleton hstart
    -- from the directory on there are no rules
    have hlevels : fs.levelsAt (bytes "w/sub") [] = [smallRepository.ignoreLevel (bytes "w/sub")] := rfl
    rw [Ignores, hlevels, ignoreLevel_smallRepository_sub]
    decide
  · have hat : WalkedFile.IsAt ⟨bytes "w/sub/gen.py", 2⟩ (bytes "w") [bytes "sub", bytes "gen.py"] :=
      ⟨by decide, by decide⟩
    rw [mem_walk_files_iff_not_ignored hfs (by decide) resolve_smallRepository rfl onlyIgnoreFiles_smallRepository
      (.inl htop) hat]
    rintro ⟨-, hway⟩
    refine hway [bytes "sub"] (bytes "gen.py") (List.prefix_refl _) ?_
    -- from the top on there are its own rules too, behind those of the directory
    have hlevels : fs.levelsAt (bytes "w") [bytes "sub"] =
        [smallRepository.ignoreLevel (bytes "w/sub"), smallRepository.ignoreLevel (bytes "w")] := rfl
    rw [Ignores, hlevels, ignoreLevel_smallRepository_sub, ignoreLevel_smallRepository]
    decide

end FileSystem

end KeywordFinder
