import KeywordFinder.Proofs.Walk.Excludes

/-!
# Exclude patterns of a walk

* A pattern without a star leaves out what it names and everything below (`FileSystem.walk_excluding_named`).
* Patterns together leave out what each of them leaves out, and those that are no globs leave out nothing
  (`FileSystem.walk_excluding_append`).  The exception is a pattern with an escape at its end, as in
  `FileSystem.walk_excluding_escape`.
-/

namespace KeywordFinder

namespace FileSystem

variable {fs : FileSystem} {o : WalkOptions} {root : Path} {p : Text} {P Q : List Text} {g : Glob} {f : WalkedFile}

/-! ### A pattern without a star -/

theorem mem_walk_files_append_iff (hfs : fs.WellFormed) : f ∈ (fs.walk { o with excludes := P ++ Q } root).files ↔
    f ∈ (fs.walk { o with excludes := P } root).files ∧ f ∈ (fs.walk { o with excludes := Q } root).files := by
  rw [mem_walk_files_iff hfs, mem_walk_files_iff hfs (P := P), mem_walk_files_iff hfs (P := Q)]
  simp only [ExcludeSet.spares_append_iff]
  constructor
  · rintro ⟨hlisted, names, hat, hP, hQ⟩
    exact ⟨⟨hlisted, names, hat, hP⟩, hlisted, names, hat, hQ⟩
  · rintro ⟨⟨hlisted, names, hat, hP⟩, -, names', hat', hQ⟩
    obtain rfl := hat'.unique hat
    exact ⟨hlisted, names', hat, hP, hQ⟩

/-- A walk looks at the patterns that there are, not at their order or number. -/
theorem walk_of_same_patterns (hfs : fs.WellFormed) (h : ∀ p, p ∈ P ↔ p ∈ Q) :
    fs.walk { o with excludes := P } root = fs.walk { o with excludes := Q } root := by
  refine walk_congr hfs fun path => ?_
  rw [Bool.eq_iff_iff, ExcludeSet.isMatch_iff, ExcludeSet.isMatch_iff]
  simp only [h]

theorem walk_filter_valid (hfs : fs.WellFormed) (hescape : ∀ p ∈ P, ∀ q, p = q ++ ['\\'] → Glob.Valid q → '*' ∈ p) :
    fs.walk { o with excludes := P.filter (Glob.Valid ·) } root = fs.walk { o with excludes := P } root := by
  refine walk_congr hfs fun path => ?_
  rw [Bool.eq_iff_iff, ExcludeSet.isMatch_iff, ExcludeSet.isMatch_iff]
  constructor
  · rintro ⟨p, hp, ht⟩
    exact ⟨p, (List.mem_filter.1 hp).1, ht⟩
  · rintro ⟨p, hp, t, ht, g, hg, hmatch⟩
    have hvalid : Glob.Valid p := by
      by_contra hno
      exact ExcludeSet.not_valid_of_mem_expandExclude hno (hescape p hp) ht ⟨g, hg⟩
    exact ⟨p, List.mem_filter.2 ⟨hp, decide_eq_true hvalid⟩, t, ht, g, hg, hmatch⟩

/-- Patterns together leave out what each of them leaves out, so neither their order nor a repetition matters, and no
file is listed because of a further pattern.  Those that are no globs leave out nothing, with one exception: a glob
without a star that has an escape behind it leaves out what it does with a slash behind it. -/
theorem walk_excluding_append (hfs : fs.WellFormed) (o : WalkOptions) (root : Path) (P Q : List Text) :
    let walked := fun patterns => fs.walk { o with excludes := patterns } root
    (∀ f, f ∈ (walked (P ++ Q)).files ↔ f ∈ (walked P).files ∧ f ∈ (walked Q).files) ∧
      ((∀ p, p ∈ P ↔ p ∈ Q) → walked P = walked Q) ∧
      (P ⊆ Q → ∀ f ∈ (walked Q).files, f ∈ (walked P).files) ∧
      ((∀ p ∈ P, ∀ q, p = q ++ ['\\'] → Glob.Valid q → '*' ∈ p) → walked (P.filter (Glob.Valid ·)) = walked P) ∧
      ∀ q, Glob.Valid q → '*' ∉ q → walked [q ++ ['\\']] = walked [q ++ ['/']] := by
  intro walked
  have hmore : P ⊆ Q → ∀ f ∈ (walked Q).files, f ∈ (walked P).files := by
    intro hsub f hf
    have hsame : ∀ p, p ∈ Q ↔ p ∈ P ++ Q :=
      fun p => ⟨List.mem_append_right P, fun hp => (List.mem_append.1 hp).elim (@hsub p) id⟩
    have hQ : walked Q = walked (P ++ Q) := walk_of_same_patterns hfs hsame
    rw [hQ] at hf
    exact ((mem_walk_files_append_iff hfs).1 hf).1
  exact ⟨fun f => mem_walk_files_append_iff hfs, walk_of_same_patterns hfs, hmore, walk_filter_valid hfs,
    fun q hq hstar => walk_congr hfs (ExcludeSet.isMatch_escape hq hstar)⟩

/-- A pattern that is listed twice, one that is no glob, and one that ends with an escape. -/
theorem walk_excluding_append_escape :
    let fs : FileSystem := {
      root := .dir (bytes "w")
        (.dir (bytes "a") (.file (bytes "x.py") [] .empty) <| .file (bytes "y.py") [] .empty) .empty
      current := [] }
    let o : WalkOptions := ⟨["py".toList], [], true, true, some 3⟩
    let root : Path := bytes "w"
    let P : List Text := [['a', '\\'], ['['], ['y', '*']]
    let Q : List Text := [['y', '*'], ['y', '*']]
    let walked := fun patterns => fs.walk { o with excludes := patterns } root
    fs.WellFormed ∧ (∀ f, f ∈ (walked (P ++ Q)).files ↔ f ∈ (walked P).files ∧ f ∈ (walked Q).files) ∧
      ((∀ p, p ∈ P ↔ p ∈ Q) → walked P = walked Q) ∧
      (P ⊆ Q → ∀ f ∈ (walked Q).files, f ∈ (walked P).files) ∧
      ((∀ p ∈ P, ∀ q, p = q ++ ['\\'] → Glob.Valid q → '*' ∈ p) → walked (P.filter (Glob.Valid ·)) = walked P) ∧
      ∀ q, Glob.Valid q → '*' ∉ q → walked [q ++ ['\\']] = walked [q ++ ['/']] := by
  intro fs o root P Q walked
  have hfs : fs.WellFormed := ⟨by decide, ⟨_, rfl⟩⟩
  exact ⟨hfs, walk_excluding_append hfs o root P Q⟩

/-- A pattern that is no glob, since the escape at its end has nothing to escape, leaves out a file. -/
theorem walk_excluding_escape :
    let fs : FileSystem := ⟨.dir (bytes "w") (.dir (bytes "a") (.file (bytes "x.py") [] .empty) .empty) .empty, []⟩
    let o : WalkOptions := ⟨["py".toList], [], false, false, none⟩
    let root : Path := bytes "w"
    let P : List Text := [['a', '\\']]
    fs.WellFormed ∧ P.filter (Glob.Valid ·) = [] ∧
      (fs.walk { o with excludes := P.filter (Glob.Valid ·) } root).files = [⟨bytes "w/a/x.py", 2⟩] ∧
      (fs.walk { o with excludes := P } root).files = [] := by
  intro fs o root P
  have hresolve : fs.resolve root = .ok [bytes "w"] := resolve_of_followIn? 2 rfl rfl
  have hroot : fs.entry? root = some (.dir (.dir (bytes "a") (.file (bytes "x.py") [] .empty) .empty)) :=
    entry?_of_resolve hresolve
  have hname : root.trimmed ≠ bytes "-" := by decide
  have hvalid : P.filter (Glob.Valid ·) = [] := by decide
  refine ⟨⟨by decide, ⟨_, rfl⟩⟩, hvalid, ?_, ?_⟩
  · rw [hvalid, walk_of_dir hname rfl hroot]
    decide
  · rw [walk_of_dir hname rfl hroot]
    decide

end FileSystem

end KeywordFinder
