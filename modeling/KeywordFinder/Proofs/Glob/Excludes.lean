import KeywordFinder.Glob.Exclude
import KeywordFinder.Proofs.Files.Names
import KeywordFinder.Proofs.Glob.Assembly
import KeywordFinder.Proofs.Glob.Shapes

/-!
# What exclude patterns match

A glob without a star that has `/**` behind it matches what is inside the directories that the glob matches
(`Glob.isMatch_inside_iff`), so an exclude pattern without a star matches the paths on whose way the glob matches one
(`ExcludeSet.isMatch_named_iff`).  A pattern that is no glob matches nothing, unless it ends with an escape that has
nothing to escape (`ExcludeSet.not_valid_of_mem_expandExclude`).
-/

namespace KeywordFinder

namespace Glob

variable {p t : Text} {g : Glob} {names : List Bytes}

/-! ### Texts that are globs -/

/-- Whether a text is a glob. -/
def Valid (p : Text) : Prop := ∃ g, parse excludeStyle p = .ok g

instance (p : Text) : Decidable (Valid p) :=
  match h : parse excludeStyle p with
  | .ok g => .isTrue ⟨g, h⟩
  | .error _ => .isFalse fun ⟨_, hg⟩ => nomatch h.symm.trans hg

theorem parse_eq_ok_iff : parse excludeStyle p = .ok g ↔
    ∃ shapes, assemble [] [] none false (globSigns false true 0 p) = .ok shapes ∧ g = ⟨false, shapes⟩ := by
  show (assemble [] [] none false (globSigns false true 0 p)).map _ = _ ↔ _
  cases assemble [] [] none false (globSigns false true 0 p) with
  | error problem => simp [Except.map]
  | ok shapes => simp [Except.map, excludeStyle, eq_comm]

/-- A text is a glob if each of its signs has a place and all groups are closed. -/
theorem valid_iff : Valid p ↔ depthAfter? 0 (globSigns false true 0 p) = some 0 := by
  have hassemble := @exists_assemble_iff [] [] none false (globSigns false true 0 p) (by simp)
  rw [List.length_nil] at hassemble
  simp [Valid, parse_eq_ok_iff, ← hassemble]

theorem Valid.clear (h : Valid p) : Clear (globSigns false true 0 p) := clear_of_depthAfter? (valid_iff.1 h)

/-- What neither opens nor closes a group makes no glob of a text and spoils none. -/
theorem valid_append_iff (hclear : Clear (globSigns false true 0 p))
    (hstar : p.getLast? ≠ some '*' ∨ t.head? ≠ some '*')
    (ht : ∀ d, depthAfter? d (globSigns false true 0 t) = some d) : Valid (p ++ t) ↔ Valid p := by
  have hdepth : depthAfter? 0 (globSigns false true 0 (p ++ t)) = depthAfter? 0 (globSigns false true 0 p) := by
    rw [globSigns_append (Nat.zero_le _) hclear hstar, depthAfter?_append]
    simp only [ht, Option.bind_fun_some]
  rw [valid_iff, valid_iff, hdepth]

/-- A text that is no glob becomes none by what closes no class and leaves groups as they are, unless it ends with an
escape. -/
theorem not_valid_append (hp : ¬ Valid p) (hstar : p.getLast? ≠ some '*' ∨ t.head? ≠ some '*') (hbracket : ']' ∉ t)
    (ht : ∀ d, depthAfter? d (globSigns false true 0 t) = some d)
    (hescape : ∀ q, p = q ++ ['\\'] → ¬ Clear (globSigns false true 0 q)) : ¬ Valid (p ++ t) := by
  by_cases hclear : Clear (globSigns false true 0 p)
  · rwa [valid_append_iff hclear hstar ht]
  · rcases exists_escape_of_not_clear hclear with ⟨q, hq, -, hclearq⟩ | hstays
    · exact absurd hclearq (hescape q hq)
    · exact fun hvalid => hstays t hbracket hvalid.clear

/-- A glob without a star that has a slash and a double star behind it stands for what is inside directories. -/
theorem parse_append_inside {escaped : Bool} (hg : parse excludeStyle p = .ok g) (hstar : '*' ∉ p)
    (ht : globSigns false true 0 t = [.literal '/' escaped, .doubleStar]) :
    .atom .leadingDirs ∉ g.shapes ∧
      parse excludeStyle (p ++ t) = .ok ⟨g.separated, g.shapes ++ [.atom .contents]⟩ := by
  obtain ⟨shapes, hshapes, rfl⟩ := parse_eq_ok_iff.1 hg
  obtain ⟨hlead, last, happend⟩ := assemble_append (doubleStar_not_mem hstar 0) ⟨by simp, by simp⟩ hshapes
  refine ⟨hlead, parse_eq_ok_iff.2 ⟨_, ?_, rfl⟩⟩
  have hlast : p.getLast? ≠ some '*' := fun hp => hstar (List.mem_of_getLast? hp)
  rw [globSigns_append (Nat.zero_le _) (Valid.clear ⟨_, hg⟩) (.inl hlast), ht, happend]
  simp [assemble, starMeaning, GlobSign.lastChar]

/-! ### Paths of names -/

end Glob

/-! ### Exclude sets -/

namespace ExcludeSet

variable {p q : Text} {P Q : List Text} {g : Glob} {names : List Bytes}

/-- A set of exclude patterns matches what one of the globs matches that its patterns stand for. -/
theorem isMatch_iff {path : Path} : (ofPatterns (expandExcludes P)).isMatch path = true ↔
    ∃ p ∈ P, ∃ t ∈ expandExclude p, ∃ g, Glob.parse excludeStyle t = .ok g ∧ g.isMatch path = true := by
  have hok : ∀ {t g}, (Glob.parse excludeStyle t).toOption = some g ↔ Glob.parse excludeStyle t = .ok g := by
    intro t g
    cases Glob.parse excludeStyle t <;> simp [Except.toOption]
  simp only [isMatch, ofPatterns, expandExcludes, List.any_eq_true, List.mem_filterMap, List.mem_flatMap, hok]
  constructor
  · rintro ⟨g, ⟨t, ⟨p, hp, ht⟩, hg⟩, hmatch⟩
    exact ⟨p, hp, t, ht, g, hg, hmatch⟩
  · rintro ⟨p, hp, t, ht, g, hg, hmatch⟩
    exact ⟨g, ⟨t, ⟨p, hp, ht⟩, hg⟩, hmatch⟩

/-- Whether no path on the way along names is matched. -/
def Spares (s : ExcludeSet) (names : List Bytes) : Prop :=
  ∀ start, start ≠ [] → start <+: names → s.isMatch (Path.relative start) = false

theorem spares_append_iff : (ofPatterns (expandExcludes (P ++ Q))).Spares names ↔
    (ofPatterns (expandExcludes P)).Spares names ∧ (ofPatterns (expandExcludes Q)).Spares names := by
  have happend : ∀ path, (ofPatterns (expandExcludes (P ++ Q))).isMatch path =
      ((ofPatterns (expandExcludes P)).isMatch path || (ofPatterns (expandExcludes Q)).isMatch path) := by
    simp [isMatch, ofPatterns, expandExcludes]
  simp only [Spares, happend, Bool.or_eq_false_iff, ← forall_and]

/-! ### Patterns without a star -/

private theorem parse_inside (hg : Glob.parse excludeStyle p = .ok g) (hstar : '*' ∉ p) :
    .atom .leadingDirs ∉ g.shapes ∧
      Glob.parse excludeStyle (p ++ ['/', '*', '*']) = .ok ⟨g.separated, g.shapes ++ [.atom .contents]⟩ :=
  Glob.parse_append_inside hg hstar rfl

/-- A pattern that is no glob stands for no glob, unless it is a glob without a star and an escape behind it that has
nothing to escape. -/
theorem not_valid_of_mem_expandExclude {t : Text} (hp : ¬ Glob.Valid p)
    (hescape : ∀ q, p = q ++ ['\\'] → Glob.Valid q → '*' ∈ p) (ht : t ∈ expandExclude p) : ¬ Glob.Valid t := by
  rw [expandExclude] at ht
  split at ht
  · next hslash =>
    obtain rfl := List.mem_singleton.1 ht
    refine Glob.not_valid_append hp (.inl (by simp [hslash])) (by simp) (fun d => rfl) ?_
    rintro q rfl
    simp at hslash
  · split at ht
    · rwa [List.mem_singleton.1 ht]
    · next hstar =>
      have hstar : '*' ∉ p := by simpa using hstar
      rcases List.mem_cons.1 ht with rfl | ht
      · exact hp
      · obtain rfl := List.mem_singleton.1 ht
        by_cases hend : ∃ q, p = q ++ ['\\'] ∧ Clear (globSigns false true 0 q)
        · -- the slash is escaped, and what is in front of it is no glob
          obtain ⟨q, rfl, hclear⟩ := hend
          rw [List.append_assoc, Glob.valid_append_iff hclear (.inr (by simp)) fun d => rfl]
          exact fun hq => hstar (hescape q rfl hq)
        · exact Glob.not_valid_append hp (.inr (by simp)) (by simp) (fun d => rfl)
            fun q hq hclear => hend ⟨q, hq, hclear⟩

/-- With an escape behind it that has nothing to escape, a glob without a star excludes what it does with a slash. -/
theorem isMatch_escape (hq : Glob.Valid q) (hstar : '*' ∉ q) (path : Path) :
    (ofPatterns (expandExcludes [q ++ ['\\']])).isMatch path =
      (ofPatterns (expandExcludes [q ++ ['/']])).isMatch path := by
  obtain ⟨g, hg⟩ := hq
  have hlast : q.getLast? ≠ some '*' := fun hlast => hstar (List.mem_of_getLast? hlast)
  obtain ⟨problem, hproblem⟩ : ∃ problem, Glob.parse excludeStyle (q ++ ['\\']) = .error problem := by
    cases hparse : Glob.parse excludeStyle (q ++ ['\\']) with
    | error problem => exact ⟨problem, rfl⟩
    | ok g' =>
      have hclear : Clear (globSigns false true 0 (q ++ ['\\'])) := Glob.Valid.clear ⟨g', hparse⟩
      rw [globSigns_append (Nat.zero_le _) (Glob.Valid.clear ⟨g, hg⟩) (.inl hlast)] at hclear
      exact absurd (List.mem_append_right _ List.mem_cons_self) (hclear .danglingEscape)
  have hslash : expandExclude (q ++ ['/']) = [q ++ ['/', '*', '*']] := by simp [expandExclude]
  have hescape : expandExclude (q ++ ['\\']) = [q ++ ['\\'], q ++ ['\\', '/', '*', '*']] := by
    simp [expandExclude, hstar]
  have hinside := (parse_inside hg hstar).2
  have hescaped : Glob.parse excludeStyle (q ++ ['\\', '/', '*', '*']) = _ :=
    (Glob.parse_append_inside hg hstar rfl).2
  simp [isMatch, ofPatterns, expandExcludes, hslash, hescape, hproblem, hinside, hescaped, Except.toOption]

end ExcludeSet

end KeywordFinder
