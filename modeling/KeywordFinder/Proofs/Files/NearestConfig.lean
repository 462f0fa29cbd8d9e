import KeywordFinder.Proofs.Files.Discovery

/-!
# The nearest configuration

The directories above a path are reached in steps (`Path.above?`), and there are fewer of them than the path has bytes.
The search for a configuration goes up past directories that hold neither a configuration nor the data of a repository
(`FileSystem.firstConfig?_above`).  So it finds the configuration of the first directory that holds one, unless a
repository begins in a directory before it (`FileSystem.findConfig?_nearest`).
-/

namespace KeywordFinder

/-! ### Directories above a path -/

namespace Path

variable {p q d e : Path} {i k : Nat}

/-- The path that lies a number of steps above another one. -/
def above? : Nat → Path → Option Path
  | 0, p => some p
  | i + 1, p => (parent? p).bind (above? i)

theorem above?_succ_of_parent (h : parent? p = some q) (i : Nat) : above? (i + 1) p = above? i q := by
  rw [above?, h, Option.bind_some]

theorem exists_ancestors_eq_cons (p : Path) : ∃ above, ancestors p = p :: above := by
  rw [ancestors.eq_def]
  exact ⟨_, rfl⟩

theorem exists_of_above?_succ (h : above? (i + 1) p = some d) : ∃ q, parent? p = some q ∧ above? i q = some d :=
  Option.bind_eq_some_iff.1 h

/-- Each step up makes a path shorter. -/
theorem length_above (h : above? i p = some d) : d.length + i ≤ p.length := by
  induction i generalizing p with
  | zero =>
    cases h
    exact Nat.le_refl _
  | succ i ih =>
    obtain ⟨q, hq, hd⟩ := exists_of_above?_succ h
    have hlength := length_parent hq
    have hrest := ih hd
    omega

theorem above?_add (i k : Nat) (p : Path) : above? (i + k) p = (above? i p).bind (above? k) := by
  induction i generalizing p with
  | zero => rw [Nat.zero_add, above?, Option.bind_some]
  | succ i ih =>
    rw [Nat.succ_add, above?, above?, Option.bind_assoc]
    congr 1
    funext q
    exact ih q

/-- A slash at the end has no part in what is above. -/
private theorem parent?_append_slash (hp : p ≠ []) : parent? (p ++ [slash]) = parent? p := by
  have htrim : trimReversed (p ++ [slash]).reverse = trimReversed p.reverse := by
    rw [List.reverse_append, List.reverse_singleton, List.singleton_append, trimReversed, if_pos rfl,
      if_neg (by simpa using hp)]
  rw [parent?, parent?, htrim]

/-- A name has a longer path in a directory than in one above it. -/
private theorem length_join_parent {name : Bytes} (hname : Inner name) (h : parent? p = some q) :
    (join q name).length < (join p name).length := by
  have hlength := length_parent h
  have hp : p ≠ [] := by
    rintro rfl
    cases h
  have hq : (join q name).length ≤ q.length + 1 + name.length := by
    by_cases hne : q = []
    · rw [hne, join_nil]
      omega
    · rw [join_of_inner hname hne]
      split <;> simp only [List.length_append, List.length_cons] <;> omega
  rw [join_of_inner hname hp]
  split
  · next hlast =>
    obtain ⟨front, rfl⟩ := List.getLast?_eq_some_iff.1 hlast
    have hfront : front ≠ [] := by
      rintro rfl
      cases h
    rw [parent?_append_slash hfront] at h
    have hshorter := length_parent h
    simp only [List.length_append, List.length_singleton]
    omega
  · simp only [List.length_append, List.length_cons]
    omega

/-- Under one name, no two of the directories on a way up have the same path. -/
theorem join_above_injective {name : Bytes} (hname : Inner name) (hd : above? i p = some d) (he : above? k p = some e)
    (h : join d name = join e name) : i = k := by
  have hshorter : ∀ {k : Nat} {p e : Path}, above? (k + 1) p = some e →
      (join e name).length < (join p name).length := by
    intro k
    induction k with
    | zero =>
      intro p e he
      obtain ⟨q, hq, hqe⟩ := exists_of_above?_succ he
      cases hqe
      exact length_join_parent hname hq
    | succ k ih =>
      intro p e he
      obtain ⟨q, hq, hqe⟩ := exists_of_above?_succ he
      exact Nat.lt_trans (ih hqe) (length_join_parent hname hq)
  have hless : ∀ {i k : Nat} {d e : Path}, above? i p = some d → above? k p = some e → i < k →
      (join e name).length < (join d name).length := by
    intro i k d e hd he hik
    obtain ⟨m, rfl⟩ := Nat.exists_eq_add_of_lt hik
    rw [Nat.add_assoc, above?_add, hd, Option.bind_some] at he
    exact hshorter he
  have hlength := congrArg List.length h
  rcases Nat.lt_trichotomy i k with hik | hik | hik
  · have := hless hd he hik
    omega
  · exact hik
  · have := hless he hd hik
    omega

end Path

/-! ### Files are no directories -/

namespace FileSystem

variable {fs : FileSystem} {p : Path} {name : Bytes}

/-- No name leads on from a file. -/
private theorem exists_fault_of_follow {links : Nat} {here components names : List Bytes} {content : Bytes}
    (hname : ProperName name) (hfile : fs.root.entryAt? names = some (.file content))
    (h : fs.follow links here components = .ok names) :
    ∃ fault, fs.follow links here (components ++ [name]) = .error fault := by
  induction links, here, components using followInduction fs with
  | nil links here =>
    rw [follow_nil] at h
    cases h
    have hnone : fs.root.entryAt? (names ++ [name]) = none := by
      rw [Listing.entryAt?_append, hfile]
      rfl
    rw [List.nil_append, follow_cons, move_of_properName hname, hnone]
    exact ⟨_, rfl⟩
  | cons links here c rest ih =>
    rw [follow_cons] at h
    rw [List.cons_append, follow_cons]
    cases hmove : fs.move links here c with
    | on left next inserted =>
      rw [hmove] at h
      obtain ⟨fault, hfault⟩ := ih left next inserted hmove h
      exact ⟨fault, by rw [← hfault, List.append_assoc]⟩
    | file place => exact ⟨.notDirectory, by simp⟩
    | stop fault =>
      rw [hmove] at h
      cases h

/-- Nothing is below a file. -/
theorem exists_fault_of_isFile (hp : fs.isFile p = true) (hname : ProperName name) :
    ∃ fault, fs.resolve (Path.join p name) = .error fault := by
  obtain ⟨names, content, hresolve, hfile⟩ : ∃ names content, fs.resolve p = .ok names ∧
      fs.root.entryAt? names = some (.file content) := by
    rw [isFile] at hp
    split at hp
    · next content hentry =>
      obtain ⟨names, hok, hfile⟩ := Option.bind_eq_some_iff.1 hentry
      cases hr : fs.resolve p with
      | error fault =>
        rw [hr] at hok
        cases hok
      | ok names' =>
        rw [hr] at hok
        cases hok
        exact ⟨_, content, rfl, hfile⟩
    · cases hp
  obtain ⟨start, components, hfollow, hjoin⟩ := exists_follow_join hresolve
  rw [hjoin name hname.inner, Path.components_of_name hname]
  exact exists_fault_of_follow hname hfile hfollow

/-! ### The search -/

variable {start d : Path} {i : Nat}

/-- The directory that the search for a configuration looks at after a number of steps up.  It starts in the directory of
a start that is a file. -/
def searched? (fs : FileSystem) (start : Path) (i : Nat) : Option Path :=
  (if fs.isFile start then Path.parent? start else some start).bind (Path.above? i)

/-- Whether the search goes on above a directory: it holds no configuration, and no repository begins in it. -/
structure GoesOnAbove (fs : FileSystem) (d : Path) : Prop where
  no_config : fs.isFile (Path.join d configName) = false
  no_repository : fs.pathExists (Path.join d (bytes ".git")) = false

/-- Whether a directory is the nearest one with a configuration, and no repository begins before it. -/
structure NearestConfig (fs : FileSystem) (start : Path) (i : Nat) (d : Path) : Prop where
  searched : fs.searched? start i = some d
  config : fs.isFile (Path.join d configName) = true
  before : ∀ k < i, ∀ e, fs.searched? start k = some e → fs.GoesOnAbove e

private theorem firstConfig?_of_goesOnAbove (h : fs.GoesOnAbove d) (directories : List Path) :
    fs.firstConfig? (d :: directories) = fs.firstConfig? directories := by
  rw [firstConfig?, h.no_config, h.no_repository]
  rfl

/-- The search goes up past directories that do not end it. -/
theorem firstConfig?_above (hd : Path.above? i p = some d)
    (h : ∀ k < i, ∀ e, Path.above? k p = some e → fs.GoesOnAbove e) :
    fs.firstConfig? (Path.ancestors p) = fs.firstConfig? (Path.ancestors d) := by
  induction i generalizing p with
  | zero =>
    cases hd
    rfl
  | succ i ih =>
    obtain ⟨q, hq, hqd⟩ := Path.exists_of_above?_succ hd
    have habove : ∀ k < i, ∀ e, Path.above? k q = some e → fs.GoesOnAbove e := by
      intro k hk e he
      refine h (k + 1) (Nat.succ_lt_succ hk) e ?_
      rwa [Path.above?_succ_of_parent hq]
    rw [Path.ancestors_of_parent hq, firstConfig?_of_goesOnAbove (h 0 (Nat.succ_pos i) p rfl), ih hqd habove]

/-- The configuration that is found is that of a directory above which the search did not go on, and the first one. -/
theorem exists_of_firstConfig? {c : Path} (h : fs.firstConfig? (Path.ancestors p) = some c) :
    ∃ i d, Path.above? i p = some d ∧ c = Path.join d configName ∧ fs.isFile c = true ∧
      ∀ k < i, ∀ e, Path.above? k p = some e → fs.GoesOnAbove e := by
  fun_induction Path.ancestors p with
  | case1 p ih =>
    rw [firstConfig?] at h
    split at h
    · next hfile =>
      cases h
      exact ⟨0, p, rfl, rfl, hfile, fun k hk => absurd hk (Nat.not_lt_zero k)⟩
    · next hfile =>
      split at h
      · cases h
      · next hgit =>
        split at h
        · next q hq =>
          obtain ⟨i, d, hd, hc, hisfile, hbefore⟩ := ih q hq h
          refine ⟨i + 1, d, (Path.above?_succ_of_parent hq i).trans hd, hc, hisfile, fun k hk e he => ?_⟩
          cases k with
          | zero =>
            cases he
            exact ⟨by simpa using hfile, by simpa using hgit⟩
          | succ k =>
            rw [Path.above?_succ_of_parent hq] at he
            exact hbefore k (Nat.lt_of_succ_lt_succ hk) e he
        · cases h

/-- Trees that agree on the directories up to one that ends the search agree on what is found. -/
theorem firstConfig?_congr {fs' : FileSystem} (hd : Path.above? i p = some d) (hends : ¬ fs.GoesOnAbove d)
    (h : ∀ k ≤ i, ∀ e, Path.above? k p = some e →
      fs'.isFile (Path.join e configName) = fs.isFile (Path.join e configName) ∧
        fs'.pathExists (Path.join e (bytes ".git")) = fs.pathExists (Path.join e (bytes ".git"))) :
    fs'.firstConfig? (Path.ancestors p) = fs.firstConfig? (Path.ancestors p) := by
  induction i generalizing p with
  | zero =>
    cases hd
    obtain ⟨hconfig, hgit⟩ := h 0 (Nat.le_refl 0) d rfl
    obtain ⟨above, habove⟩ := Path.exists_ancestors_eq_cons d
    rw [habove, firstConfig?, firstConfig?, hconfig, hgit]
    split
    · rfl
    · next hfile =>
      split
      · rfl
      · next hrepository => exact absurd ⟨by simpa using hfile, by simpa using hrepository⟩ hends
  | succ i ih =>
    obtain ⟨q, hq, hqd⟩ := Path.exists_of_above?_succ hd
    obtain ⟨hconfig, hgit⟩ := h 0 (Nat.zero_le _) p rfl
    have hrest : fs'.firstConfig? (Path.ancestors q) = fs.firstConfig? (Path.ancestors q) := by
      refine ih hqd fun k hk e he => h (k + 1) (Nat.succ_le_succ hk) e ?_
      rwa [Path.above?_succ_of_parent hq]
    rw [Path.ancestors_of_parent hq, firstConfig?, firstConfig?, hconfig, hgit, hrest]

private theorem length_configStart (h : fs.configStart? start = some d) : d.length ≤ start.length := by
  rw [configStart?] at h
  split at h
  · exact Nat.le_of_lt (Path.length_parent h)
  · cases h
    exact Nat.le_refl _

private theorem searched?_eq_some_iff : fs.searched? start i = some d ↔
    ∃ first, fs.configStart? start = some first ∧ Path.above? i first = some d := Option.bind_eq_some_iff

theorem findConfig?_eq_some_iff {c : Path} :
    fs.findConfig? start = some c ↔ ∃ i d, fs.NearestConfig start i d ∧ c = Path.join d configName := by
  constructor
  · intro h
    obtain ⟨first, hfirst, hc⟩ := Option.bind_eq_some_iff.1 h
    obtain ⟨i, d, hd, rfl, hconfig, hbefore⟩ := exists_of_firstConfig? hc
    refine ⟨i, d, ⟨searched?_eq_some_iff.2 ⟨first, hfirst, hd⟩, hconfig, fun k hk e he => ?_⟩, rfl⟩
    obtain ⟨first', hfirst', he⟩ := searched?_eq_some_iff.1 he
    cases hfirst.symm.trans hfirst'
    exact hbefore k hk e he
  · rintro ⟨i, d, ⟨hd, hconfig, hbefore⟩, rfl⟩
    obtain ⟨first, hfirst, hd⟩ := searched?_eq_some_iff.1 hd
    have habove : ∀ k < i, ∀ e, Path.above? k first = some e → fs.GoesOnAbove e :=
      fun k hk e he => hbefore k hk e (searched?_eq_some_iff.2 ⟨first, hfirst, he⟩)
    obtain ⟨above, hancestors⟩ := Path.exists_ancestors_eq_cons d
    rw [findConfig?, hfirst, Option.bind_some, firstConfig?_above hd habove, hancestors, firstConfig?, if_pos hconfig]

/-- A start that is a file has nothing to look for in it, so it is passed by. -/
theorem findConfig?_eq_firstConfig? (fs : FileSystem) (d : Path) :
    fs.findConfig? d = fs.firstConfig? (Path.ancestors d) := by
  rw [findConfig?, configStart?]
  split
  · next hfile =>
    have hgoes : fs.GoesOnAbove d := by
      constructor
      · obtain ⟨fault, hfault⟩ := exists_fault_of_isFile hfile (by decide : ProperName configName)
        exact isFile_of_resolve_error hfault
      · obtain ⟨fault, hfault⟩ := exists_fault_of_isFile hfile (by decide : ProperName (bytes ".git"))
        rw [pathExists, hfault]
        rfl
    cases hq : Path.parent? d with
    | none =>
      rw [Path.ancestors_of_no_parent hq, firstConfig?_of_goesOnAbove hgoes]
      rfl
    | some q => rw [Path.ancestors_of_parent hq, firstConfig?_of_goesOnAbove hgoes, Option.bind_some]
  · rfl

/-- The configuration that is found is that of the nearest directory, from the start on upwards, that holds one, unless a
repository begins in a directory before it.  Nothing else is found.  What lies above the first directory with a
configuration or a repository has no bearing on it, and a search that starts in a directory that is reached finds the
same. -/
theorem findConfig?_nearest (fs : FileSystem) (start : Path) :
    (∀ i, start.length < i → fs.searched? start i = none) ∧
    (∀ i d, fs.searched? start i = some d →
      (fs.findConfig? start = some (Path.join d configName) ↔ fs.NearestConfig start i d)) ∧
    (fs.findConfig? start = none ↔ ¬ ∃ i d, fs.NearestConfig start i d) ∧
    (∀ (fs' : FileSystem) i d, fs.searched? start i = some d → ¬ fs.GoesOnAbove d → fs'.isFile start = fs.isFile start →
      (∀ k ≤ i, ∀ e, fs.searched? start k = some e →
        fs'.isFile (Path.join e configName) = fs.isFile (Path.join e configName) ∧
          fs'.pathExists (Path.join e (bytes ".git")) = fs.pathExists (Path.join e (bytes ".git"))) →
      fs'.findConfig? start = fs.findConfig? start) ∧
    (∀ i d, fs.searched? start i = some d →
      (∀ k < i, ∀ e, fs.searched? start k = some e → fs.GoesOnAbove e) → fs.findConfig? start = fs.findConfig? d) := by
  refine ⟨fun i hi => ?_, fun i d hd => ⟨fun h => ?_, fun h => findConfig?_eq_some_iff.2 ⟨i, d, h, rfl⟩⟩, ?_, ?_, ?_⟩
  · cases hd : fs.searched? start i with
    | none => rfl
    | some d =>
      obtain ⟨first, hfirst, hd⟩ := searched?_eq_some_iff.1 hd
      have hlength := Path.length_above hd
      have hle : first.length ≤ start.length := length_configStart hfirst
      omega
  · -- the directory of the configuration is the one at hand, since no other has its path
    obtain ⟨k, e, hnearest, hjoin⟩ := findConfig?_eq_some_iff.1 h
    obtain ⟨first, hfirst, habove⟩ := searched?_eq_some_iff.1 hd
    obtain ⟨first', hfirst', habove'⟩ := searched?_eq_some_iff.1 hnearest.searched
    cases hfirst.symm.trans hfirst'
    obtain rfl := Path.join_above_injective (by decide : ProperName configName).inner habove habove' hjoin
    cases habove.symm.trans habove'
    exact hnearest
  · rw [← not_iff_not, not_not, ← ne_eq, Option.ne_none_iff_exists']
    simp only [findConfig?_eq_some_iff]
    exact ⟨fun ⟨c, i, d, h, _⟩ => ⟨i, d, h⟩, fun ⟨i, d, h⟩ => ⟨_, i, d, h, rfl⟩⟩
  · intro fs' i d hd hends hstart h
    obtain ⟨first, hfirst, habove⟩ := searched?_eq_some_iff.1 hd
    have hfirst' : fs'.configStart? start = some first := by rwa [configStart?, hstart, ← configStart?]
    rw [findConfig?, findConfig?, hfirst, hfirst', Option.bind_some, Option.bind_some]
    exact firstConfig?_congr habove hends fun k hk e he => h k hk e (searched?_eq_some_iff.2 ⟨first, hfirst, he⟩)
  · intro i d hd h
    obtain ⟨first, hfirst, habove⟩ := searched?_eq_some_iff.1 hd
    rw [findConfig?_eq_firstConfig? fs d, findConfig?, hfirst, Option.bind_some]
    exact firstConfig?_above habove fun k hk e he => h k hk e (searched?_eq_some_iff.2 ⟨first, hfirst, he⟩)

/-- A configuration beside the data of a repository is found.  On the way to it, a directory with the name of
configurations and a link that leads nowhere do not end the search. -/
theorem findConfig?_nearest_beside_repository :
    let fs : FileSystem := {
      root := .dir (bytes "w")
        (.dir (bytes ".git") .empty <| .file (bytes "findit.toml") [] <| .dir (bytes "src")
          (.dir (bytes "findit.toml") .empty <| .link (bytes ".git") (bytes "gone") <|
            .file (bytes "m.py") [] .empty) .empty) .empty
      current := [] }
    let start : Path := bytes "/w/src/m.py"
    fs.searched? start 1 = some (bytes "/w") ∧ fs.NearestConfig start 1 (bytes "/w") ∧
      fs.findConfig? start = some (bytes "/w/findit.toml") := by
  intro fs start
  have hfile : fs.isFile start = true := by
    rw [isFile, entry?_of_resolve (resolve_of_followIn? 4 rfl rfl : fs.resolve start = .ok
      [bytes "w", bytes "src", bytes "m.py"])]
    rfl
  have hsearched : ∀ i, fs.searched? start i = Path.above? i (bytes "/w/src") := by
    intro i
    rw [searched?, hfile, if_pos rfl, (by decide : Path.parent? start = some (bytes "/w/src")), Option.bind_some]
  have hgoes : fs.GoesOnAbove (bytes "/w/src") := by
    constructor
    · rw [isFile, entry?_of_resolve (resolve_of_followIn? 4 rfl rfl : fs.resolve _ = .ok
        [bytes "w", bytes "src", bytes "findit.toml"])]
      rfl
    · rw [pathExists, (resolve_of_followIn? 5 rfl rfl : fs.resolve _ = .error .notFound)]
      rfl
  have hconfig : fs.isFile (Path.join (bytes "/w") configName) = true := by
    rw [isFile, entry?_of_resolve (resolve_of_followIn? 3 rfl rfl : fs.resolve _ = .ok
      [bytes "w", bytes "findit.toml"])]
    rfl
  have hone : fs.searched? start 1 = some (bytes "/w") := by
    rw [hsearched]
    decide
  have hnearest : fs.NearestConfig start 1 (bytes "/w") := by
    refine ⟨hone, hconfig, fun k hk e he => ?_⟩
    obtain rfl := Nat.lt_one_iff.1 hk
    rw [hsearched] at he
    cases he
    exact hgoes
  exact ⟨hone, hnearest, ((fs.findConfig?_nearest start).2.1 1 _ hone).2 hnearest⟩

end FileSystem

end KeywordFinder
