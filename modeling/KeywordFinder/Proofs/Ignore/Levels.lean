import KeywordFinder.Ignore.Level
import KeywordFinder.Proofs.Files.Resolution

/-!
# Rules of nearer and farther directories

When levels of rules are put above others, what the nearer ones drop stays dropped
(`IgnoreLevel.verdict?_append_of_drop`), and levels above that decide nothing change nothing
(`IgnoreLevel.verdict?_append_of_none`).  For the first of these the rules of `.gitignore` files have to be all the
rules that a directory has which is not the top of a repository (`FileSystem.excludeRules_of_not_top`), since those of
exclude files come after the `.gitignore` files of all levels.
-/

namespace KeywordFinder

namespace IgnoreLevel

variable {near above : List IgnoreLevel} {p : Path} {isDir : Bool} {v : Verdict}

/-- What the `.gitignore` files of levels say of a path. -/
def rulesVerdict? (levels : List IgnoreLevel) (p : Path) (isDir : Bool) : Option Verdict :=
  (withinRepository levels).findSome? fun level => level.fileVerdict? level.rules (withoutDotSlash p) isDir

/-- What the exclude files of levels say of a path. -/
def excludeVerdict? (levels : List IgnoreLevel) (p : Path) (isDir : Bool) : Option Verdict :=
  (withinRepository levels).findSome? fun level => level.fileVerdict? level.excludeRules (withoutDotSlash p) isDir

theorem verdict?_eq (levels : List IgnoreLevel) (p : Path) (isDir : Bool) :
    verdict? true levels p isDir = (rulesVerdict? levels p isDir).or (excludeVerdict? levels p isDir) := rfl

/-- Levels above a top directory have no bearing. -/
theorem withinRepository_append (near above : List IgnoreLevel) : withinRepository (near ++ above) =
    if near.any (·.isTop) then withinRepository near else withinRepository near ++ withinRepository above := by
  induction near with
  | nil => rfl
  | cons level near ih =>
    rw [List.cons_append, withinRepository, withinRepository, ih, List.any_cons]
    cases level.isTop <;> simp
    split <;> rfl

theorem exists_of_mem_withinRepository {level : IgnoreLevel} {levels : List IgnoreLevel}
    (h : level ∈ withinRepository levels) : level ∈ levels := by
  induction levels with
  | nil => cases h
  | cons first levels ih =>
    rw [withinRepository] at h
    split at h
    · rw [List.mem_singleton.1 h]
      exact List.mem_cons_self
    · rcases List.mem_cons.1 h with rfl | h
      · exact List.mem_cons_self
      · exact List.mem_cons_of_mem _ (ih h)

private theorem fileVerdict?_empty (level : IgnoreLevel) : level.fileVerdict? .empty p isDir = none := rfl

/-- What near levels drop is dropped whatever stands above them, if exclude files belong to top directories. -/
theorem verdict?_append_of_drop (hnear : ∀ level ∈ near, level.isTop = false → level.excludeRules = .empty)
    (h : verdict? true near p isDir = some v) : verdict? true (near ++ above) p isDir = some v := by
  rw [verdict?_eq] at h ⊢
  cases htop : near.any (·.isTop) with
  | true =>
    have hsame : withinRepository (near ++ above) = withinRepository near := by
      rw [withinRepository_append, if_pos htop]
    rwa [rulesVerdict?, excludeVerdict?, hsame]
  | false =>
    have happend : withinRepository (near ++ above) = withinRepository near ++ withinRepository above := by
      rw [withinRepository_append, if_neg (by simp [htop])]
    -- the exclude files are asked last, and those near are not there, so what drops is a `.gitignore` file
    have hnone : excludeVerdict? near p isDir = none := by
      rw [excludeVerdict?, List.findSome?_eq_none_iff]
      intro level hlevel
      have hmem := exists_of_mem_withinRepository hlevel
      rw [hnear level hmem (by simpa using List.any_eq_false.1 htop level hmem), fileVerdict?_empty]
    rw [hnone, Option.or_none] at h
    rw [rulesVerdict?] at h ⊢
    rw [happend, List.findSome?_append, h]
    rfl

/-- Levels above that decide nothing change nothing. -/
theorem verdict?_append_of_none (h : verdict? true above p isDir = none) :
    verdict? true (near ++ above) p isDir = verdict? true near p isDir := by
  rw [verdict?_eq, Option.or_eq_none_iff] at h
  rw [verdict?_eq, verdict?_eq]
  simp only [rulesVerdict?, excludeVerdict?] at h ⊢
  rw [withinRepository_append]
  split
  · rfl
  · rw [List.findSome?_append, List.findSome?_append, h.1, h.2, Option.or_none, Option.or_none]

end IgnoreLevel

namespace FileSystem

variable {fs : FileSystem} {links : Nat} {here components : List Bytes} {p q d : Path} {fault : SystemFault}

theorem ignoreFile_of_resolve {names : List Bytes} {content : Bytes} (h : fs.resolve p = .ok names)
    (hfile : fs.root.entryAt? names = some (.file content)) : fs.ignoreFile p = .parse content := by
  have hread : fs.read p = .ok content := by
    rw [read, h]
    simp only [bind, Except.bind, hfile]
    rfl
  rw [ignoreFile, hread]

theorem ignoreFile_of_error (h : fs.resolve p = .error fault) : fs.ignoreFile p = .empty := by
  have hread : fs.read p = .error fault := by
    rw [read, h]
    rfl
  rw [ignoreFile, hread]

/-- Where components lead nowhere, more of them lead nowhere. -/
theorem exists_fault_of_follow_append (h : fs.follow links here components = .error fault) (more : List Bytes) :
    ∃ fault', fs.follow links here (components ++ more) = .error fault' := by
  induction links, here, components using followInduction fs with
  | nil links here =>
    rw [follow_nil] at h
    cases h
  | cons links here c rest ih =>
    rw [follow_cons] at h
    rw [List.cons_append, follow_cons]
    cases hmove : fs.move links here c with
    | on left next inserted =>
      rw [hmove] at h
      obtain ⟨fault', hfault⟩ := ih left next inserted hmove h
      exact ⟨fault', by rw [← hfault, List.append_assoc]⟩
    | file names =>
      rw [hmove] at h
      cases rest with
      | nil => cases h
      | cons c' rest => exact ⟨.notDirectory, rfl⟩
    | stop fault' => exact ⟨fault', rfl⟩

theorem exists_fault_of_join (hne : p ≠ []) (hlast : p.getLast? ≠ some slash) (hq : Path.Inner q)
    (h : fs.resolve p = .error fault) : ∃ fault', fs.resolve (Path.join p q) = .error fault' := by
  have hjoin : Path.join p q = p ++ slash :: q := by rw [Path.join_of_inner hq hne, if_neg hlast]
  have hempty : ∀ {r : Path}, r ≠ [] → r.isEmpty = false := by simp
  rw [resolve, hempty hne, if_neg (by simp)] at h
  rw [resolve, hempty (by simp [hjoin]), if_neg (by simp), Path.isAbsolute_join hne hq, hjoin,
    Path.components_append_slash]
  exact exists_fault_of_follow_append h _

/-- A repository's data is in its top directory if there is no file that tells another place. -/
theorem repositoryData?_of_isFile (h : fs.isFile (Path.join d repositoryName) = false) :
    fs.repositoryData? d = some (Path.join d repositoryName) :=
  if_neg (by rw [h]; exact Bool.false_ne_true)

/-- Only the top of a repository has an exclude file. -/
theorem excludeRules_of_not_top (fs : FileSystem) (d : Path) (h : (fs.ignoreLevel d).isTop = false) :
    (fs.ignoreLevel d).excludeRules = .empty := by
  have hname : Path.Inner repositoryName := (by decide : ProperName repositoryName).inner
  have hjoin : ∃ front, Path.join d repositoryName = front ++ repositoryName := by
    by_cases hd : d = []
    · exact ⟨[], by rw [hd, Path.join_nil, List.nil_append]⟩
    · rw [Path.join_of_inner hname hd]
      split
      · exact ⟨d, rfl⟩
      · exact ⟨d ++ [slash], by simp⟩
  obtain ⟨front, hfront⟩ := hjoin
  have hmissing : fs.pathExists (Path.join d repositoryName) = false := by
    simp only [ignoreLevel, isRepositoryTop, Bool.or_eq_false_iff] at h
    exact h.1
  cases hresolve : fs.resolve (Path.join d repositoryName) with
  | ok names =>
    rw [pathExists_of_resolve hresolve] at hmissing
    cases hmissing
  | error fault =>
    obtain ⟨fault', hfault⟩ : ∃ fault', fs.resolve (Path.join (Path.join d repositoryName) (bytes "info/exclude")) =
        .error fault' := by
      refine exists_fault_of_join ?_ ?_ ⟨by decide, by decide, by decide⟩ hresolve
      · simp [hfront, hname.ne_nil]
      · rw [hfront, hname.getLast?_append]
        exact hname.last
    simp only [ignoreLevel, repositoryData?_of_isFile (isFile_of_resolve_error hresolve), ignoreFile_of_error hfault]

end FileSystem

end KeywordFinder
