import KeywordFinder.Proofs.Glob.Excludes
import KeywordFinder.Proofs.Walk.Files

/-!
# What excludes leave out

With excludes a walk lists the files that it lists without them and on whose way from the root nothing is excluded
(`FileSystem.mem_walk_files_iff`), whatever its other rules are.  Excludes that match the same paths give the same walk
(`FileSystem.walk_congr`).
-/

namespace KeywordFinder

/-- Whether names lead from a root to a listed file.  None lead to the root itself. -/
structure WalkedFile.IsAt (f : WalkedFile) (root : Path) (names : List Bytes) : Prop where
  proper : ∀ n ∈ names, ProperName n
  eq : f = ⟨Path.descend root names, names.length⟩

/-- There is only one way to a file. -/
theorem WalkedFile.IsAt.unique {f : WalkedFile} {root : Path} {names names' : List Bytes} (h : f.IsAt root names)
    (h' : f.IsAt root names') : names = names' := by
  have hsame := h.eq.symm.trans h'.eq
  have hlength : names.length = names'.length := congrArg WalkedFile.depth hsame
  have hpath : Path.descend root names = Path.descend root names' := congrArg WalkedFile.path hsame
  by_cases hne : names = []
  · rw [hne] at hlength ⊢
    exact (List.length_eq_zero_iff.1 hlength.symm).symm
  · have hne' : names' ≠ [] := List.length_pos_iff.1 (hlength ▸ List.length_pos_iff.2 hne)
    rw [Path.descend_eq_join root hne h.proper, Path.descend_eq_join root hne' h'.proper] at hpath
    exact Path.join_relative_injective root hne hne' h.proper h'.proper hpath

/-- Whether an entry is a directory. -/
def Entry.isDir : Entry → Bool
  | .dir _ => true
  | _ => false

/-- Whether no path on the way along names is matched, behind the names above it. -/
def ExcludeSet.SparesBelow (s : ExcludeSet) (above names : List Bytes) : Prop :=
  ∀ start, above.length < start.length → start <+: names → s.isMatch (Path.descend [] start) = false

namespace ExcludeSet

variable {s : ExcludeSet} {above names : List Bytes} {name : Bytes}

theorem sparesBelow_self : s.SparesBelow names names :=
  fun _ hlength hstart => absurd hstart.length_le (Nat.not_le_of_lt hlength)

/-- One name of a way, and what lies behind it. -/
theorem sparesBelow_iff (h : above ++ [name] <+: names) : s.SparesBelow above names ↔
    s.isMatch (Path.descend [] (above ++ [name])) = false ∧ s.SparesBelow (above ++ [name]) names := by
  have hlength : (above ++ [name]).length = above.length + 1 := List.length_append
  constructor
  · intro hspares
    exact ⟨hspares _ (by omega) h, fun start hstart => hspares start (by omega)⟩
  · rintro ⟨hname, hlater⟩ start hstart hbefore
    rcases Nat.lt_or_eq_of_le (Nat.succ_le_of_lt hstart) with hlonger | hequal
    · exact hlater start (by omega) hbefore
    · have hsame : above ++ [name] = start :=
        (List.prefix_of_prefix_length_le h hbefore (by omega)).eq_of_length (by omega)
      rwa [← hsame]

/-- From the root on, a way is spared if no path on it is matched. -/
theorem sparesBelow_nil_iff (h : ∀ n ∈ names, ProperName n) : s.SparesBelow [] names ↔ s.Spares names := by
  have hpath : ∀ {start}, start <+: names → Path.descend [] start = Path.relative start :=
    fun hstart => Path.descend_nil fun n hn => h n (hstart.subset hn)
  constructor
  · intro hspares start hne hstart
    rw [← hpath hstart]
    exact hspares start (List.length_pos_iff.2 hne) hstart
  · intro hspares start hlength hstart
    rw [hpath hstart]
    exact hspares start (List.length_pos_iff.1 hlength) hstart

end ExcludeSet

namespace Walker

/-- The walk with other exclude patterns. -/
def withExcludes (w : Walker) (patterns : List Text) : Walker :=
  { w with
    options := { w.options with excludes := patterns }
    excluded := .ofPatterns (expandExcludes patterns) }

variable {w : Walker} {place : WalkPlace} {root : Path} {above names : List Bytes} {name : Bytes} {l : Listing}
  {P Q : List Text}

/-! ### What a walk passes -/

/-- One entry of a listing: what is passed is the entry or lies below it. -/
theorem mem_passed_cons {e : Entry} {rest : Listing} : names ∈ w.passed place above (.cons name e rest) ↔
    (w.passes place name e.isDir = true ∧
      (e.IsFile (w.leadsToFile place name) ∧ names = above ++ [name] ∨
        ∃ children, e = .dir children ∧ names ∈ w.passed (w.enter place name) (above ++ [name]) children)) ∨
      names ∈ w.passed place above rest := by
  cases e with
  | file content => simp [Listing.cons, passed, Entry.isDir, Entry.IsFile]
  | link target => simp [Listing.cons, passed, Entry.isDir, Entry.IsFile, and_assoc, and_left_comm]
  | dir children => simp [Listing.cons, passed, Entry.isDir, Entry.IsFile]

/-- What a walk passes lies below the directory that it is in. -/
theorem exists_of_mem_passed (hl : l.WellFormed) (h : names ∈ w.passed place above l) :
    ∃ more, names = above ++ more ∧ ∀ n ∈ more, ProperName n := by
  induction l using Listing.consInduction generalizing place above with
  | empty => cases h
  | cons name e rest ihc ih =>
    obtain ⟨hname, -, he, hrest⟩ := Listing.wellFormed_cons.1 hl
    rcases mem_passed_cons.1 h with ⟨-, ⟨-, rfl⟩ | ⟨children, rfl, hbelow⟩⟩ | hlater
    · exact ⟨[name], rfl, by simpa using hname⟩
    · obtain ⟨more, rfl, hmore⟩ := ihc children rfl he hbelow
      exact ⟨name :: more, by simp, List.forall_mem_cons.2 ⟨hname, hmore⟩⟩
    · exact ih hrest hlater

/-! ### Other excludes -/

theorem passes_withExcludes (hat : place.IsAt root above) (isDir : Bool) :
    (w.withExcludes P).passes place name isDir = true ↔
      (w.withExcludes []).passes place name isDir = true ∧
        (ExcludeSet.ofPatterns (expandExcludes P)).isMatch (Path.descend [] (above ++ [name])) = false := by
  have hnothing : ∀ path, (ExcludeSet.ofPatterns (expandExcludes [])).isMatch path = false := fun _ => rfl
  have hreaches : (w.withExcludes P).reaches place.depth = (w.withExcludes []).reaches place.depth := rfl
  have hdrops : (w.withExcludes P).drops place name isDir =
      ((ExcludeSet.ofPatterns (expandExcludes P)).isMatch (Path.descend [] (above ++ [name])) ||
        (w.withExcludes []).drops place name isDir) := by
    rw [Path.descend_concat, ← hat.relative]
    simp [drops, withExcludes, hnothing]
  simp only [passes, hreaches, hdrops, Bool.not_or, Bool.and_eq_true, Bool.not_eq_true']
  constructor
  · rintro ⟨hdepth, hmatch, hother⟩
    exact ⟨⟨hdepth, hother⟩, hmatch⟩
  · rintro ⟨⟨hdepth, hother⟩, hmatch⟩
    exact ⟨hdepth, hmatch, hother⟩

/-- With excludes a walk passes what it passes without them and is spared by them. -/
theorem mem_passed_withExcludes (hl : l.WellFormed) (hat : place.IsAt root above) :
    names ∈ (w.withExcludes P).passed place above l ↔
      names ∈ (w.withExcludes []).passed place above l ∧
        (ExcludeSet.ofPatterns (expandExcludes P)).SparesBelow above names := by
  induction l using Listing.consInduction generalizing place above with
  | empty => simp [passed]
  | cons name e rest ihc ih =>
    obtain ⟨hname, -, he, hrest⟩ := Listing.wellFormed_cons.1 hl
    rw [mem_passed_cons, mem_passed_cons, ih hrest hat, passes_withExcludes hat, or_and_right]
    refine or_congr_left ?_
    constructor
    · rintro ⟨⟨hpasses, hmatch⟩, ⟨hfile, rfl⟩ | ⟨children, rfl, hbelow⟩⟩
      · exact ⟨⟨hpasses, .inl ⟨hfile, rfl⟩⟩,
          (ExcludeSet.sparesBelow_iff (List.prefix_refl _)).2 ⟨hmatch, ExcludeSet.sparesBelow_self⟩⟩
      · obtain ⟨hbelow, hspares⟩ := (ihc children rfl he (isAt_enter hat)).1 hbelow
        obtain ⟨more, rfl, -⟩ := exists_of_mem_passed he hbelow
        exact ⟨⟨hpasses, .inr ⟨children, rfl, hbelow⟩⟩,
          (ExcludeSet.sparesBelow_iff (List.prefix_append _ _)).2 ⟨hmatch, hspares⟩⟩
    · rintro ⟨⟨hpasses, ⟨hfile, rfl⟩ | ⟨children, rfl, hbelow⟩⟩, hspares⟩
      · exact ⟨⟨hpasses, ((ExcludeSet.sparesBelow_iff (List.prefix_refl _)).1 hspares).1⟩, .inl ⟨hfile, rfl⟩⟩
      · obtain ⟨more, rfl, -⟩ := exists_of_mem_passed he hbelow
        obtain ⟨hmatch, hspares⟩ := (ExcludeSet.sparesBelow_iff (List.prefix_append _ _)).1 hspares
        exact ⟨⟨hpasses, hmatch⟩,
          .inr ⟨children, rfl, (ihc children rfl he (isAt_enter hat)).2 ⟨hbelow, hspares⟩⟩⟩

/-- Excludes that match the same paths give the same walk. -/
theorem walkListing_congr
    (h : ∀ path, (ExcludeSet.ofPatterns (expandExcludes P)).isMatch path =
      (ExcludeSet.ofPatterns (expandExcludes Q)).isMatch path) (place : WalkPlace) (l : Listing) :
    (w.withExcludes P).walkListing place l = (w.withExcludes Q).walkListing place l := by
  have hdrops : ∀ place name isDir,
      (w.withExcludes P).drops place name isDir = (w.withExcludes Q).drops place name isDir := by
    intro place name isDir
    simp only [drops, withExcludes, h]
  have hvisit : ∀ place name, (w.withExcludes P).visit place name = (w.withExcludes Q).visit place name := by
    intro place name
    simp only [visit, hdrops]
    rfl
  induction l generalizing place with
  | empty => rfl
  | file name content rest ih => rw [walkListing, walkListing, ih, hvisit]
  | link name target rest ih =>
    rw [walkListing, walkListing, ih, hvisit]
    rfl
  | dir name children rest ihc ih =>
    rw [walkListing, walkListing, ih, ihc, hdrops]
    rfl

end Walker

namespace FileSystem

variable {fs : FileSystem} {o : WalkOptions} {root : Path} {f : WalkedFile} {P Q : List Text}

/-- A walk lists nothing but its root, whatever it excludes, or it is the walk of a directory. -/
theorem walk_cases (hfs : fs.WellFormed) (o : WalkOptions) (root : Path) :
    (∃ r, (∀ f ∈ r.files, f = ⟨root, 0⟩) ∧ ∀ P, fs.walk { o with excludes := P } root = r) ∨
      ∃ (w : Walker) (place : WalkPlace) (children : Listing) (r : WalkResult),
        place.IsAt root [] ∧ children.WellFormed ∧ r.files = [] ∧
          ∀ P, fs.walk { o with excludes := P } root = r ++ (w.withExcludes P).walkListing place children := by
  by_cases hinput : isStandardInput root = true
  · exact .inl ⟨{}, by simp, fun P => by rw [walk, if_pos hinput]⟩
  cases hresolve : fs.resolve root with
  | error fault =>
    exact .inl ⟨{ errors := 1 }, by simp, fun P => by rw [walk, if_neg hinput, hresolve]⟩
  | ok names =>
    by_cases hdir : ∃ children, fs.root.entryAt? names = some (.dir children)
    · obtain ⟨children, hentry⟩ := hdir
      let above := if o.honorIgnoreFiles then (directoriesAbove names).map fs.ignoreLevel else []
      let w : Walker := ⟨o, o.excludeSet, fs, above.any (·.isTop)⟩
      let flawed := above.any fun level => level.rules.isFlawed || level.excludeRules.isFlawed
      refine .inr ⟨w, ⟨root, [], 1, w.levelOf root⟩, children, { errors := if flawed then 1 else 0 }, ⟨rfl, rfl, rfl⟩,
        (hfs.root.of_entryAt? hentry).2, rfl, fun P => ?_⟩
      rw [walk, if_neg hinput, hresolve]
      simp only [hentry]
      rfl
    · refine .inl ⟨{ files := [⟨root, 0⟩] }, by simp, fun P => ?_⟩
      rw [walk, if_neg hinput, hresolve]
      simp only
      split
      · next children hentry => exact absurd ⟨children, hentry⟩ hdir
      · rfl

/-- With excludes a walk lists the files that it lists without them and on whose way from the root nothing is
excluded. -/
theorem mem_walk_files_iff (hfs : fs.WellFormed) :
    f ∈ (fs.walk { o with excludes := P } root).files ↔
      f ∈ (fs.walk { o with excludes := [] } root).files ∧
        ∃ names, f.IsAt root names ∧ (ExcludeSet.ofPatterns (expandExcludes P)).Spares names := by
  rcases walk_cases hfs o root with ⟨r, hroot, hr⟩ | ⟨w, place, children, r, hat, hchildren, hr, hwalk⟩
  · rw [hr, hr]
    refine ⟨fun h => ⟨h, [], ⟨by simp, hroot f h⟩, ?_⟩, fun h => h.1⟩
    exact fun start hne hstart => absurd (List.prefix_nil.1 hstart) hne
  · have hfiles : ∀ P, f ∈ (fs.walk { o with excludes := P } root).files ↔ ∃ names,
        names ∈ (w.withExcludes P).passed place [] children ∧ f.IsAt root names ∧
          w.options.isWanted (Path.descend root names) = true := by
      intro P
      have happend : (fs.walk { o with excludes := P } root).files =
          ((w.withExcludes P).walkListing place children).files := by
        rw [hwalk]
        show r.files ++ _ = _
        rw [hr, List.nil_append]
      rw [happend, Walker.walkListing_eq_yield_passed hat]
      simp only [Walker.yield, List.mem_map, List.mem_filter]
      constructor
      · rintro ⟨names, ⟨hpassed, hwanted⟩, rfl⟩
        obtain ⟨more, hmore, hproper⟩ := Walker.exists_of_mem_passed hchildren hpassed
        rw [← hmore.trans (List.nil_append more)] at hproper
        exact ⟨names, hpassed, ⟨hproper, rfl⟩, hwanted⟩
      · rintro ⟨names, hpassed, hplace, hwanted⟩
        exact ⟨names, ⟨hpassed, hwanted⟩, hplace.eq.symm⟩
    rw [hfiles, hfiles]
    constructor
    · rintro ⟨names, hpassed, hplace, hwanted⟩
      obtain ⟨hpassed, hspares⟩ := (Walker.mem_passed_withExcludes hchildren hat).1 hpassed
      exact ⟨⟨names, hpassed, hplace, hwanted⟩, names, hplace, (ExcludeSet.sparesBelow_nil_iff hplace.proper).1 hspares⟩
    · rintro ⟨⟨names, hpassed, hplace, hwanted⟩, names', hplace', hspares⟩
      obtain rfl := hplace'.unique hplace
      exact ⟨names', (Walker.mem_passed_withExcludes hchildren hat).2
        ⟨hpassed, (ExcludeSet.sparesBelow_nil_iff hplace.proper).2 hspares⟩, hplace, hwanted⟩

/-- Excludes that match the same paths give the same walk. -/
theorem walk_congr (hfs : fs.WellFormed) (h : ∀ path, (ExcludeSet.ofPatterns (expandExcludes P)).isMatch path =
      (ExcludeSet.ofPatterns (expandExcludes Q)).isMatch path) :
    fs.walk { o with excludes := P } root = fs.walk { o with excludes := Q } root := by
  rcases walk_cases hfs o root with ⟨r, -, hr⟩ | ⟨w, place, children, r, -, -, -, hwalk⟩
  · rw [hr, hr]
  · rw [hwalk, hwalk, Walker.walkListing_congr h]

end FileSystem

end KeywordFinder
