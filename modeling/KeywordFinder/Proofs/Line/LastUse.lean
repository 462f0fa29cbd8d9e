import KeywordFinder.Proofs.Line.Fragments

/-!
# The last use in a line

A line is reported as another use exactly if it is no comment, starts no declaration in its first column and holds a
plain use of the keyword, and of several plain uses the one with the most before it is reported
(`Role.match?_otherUse_reports_last`).  Plain uses may overlap.  The search finds a use if there is one, and no use has
more before it than the one that is found (`exists_lastUse?`).
-/

namespace KeywordFinder

variable {k : Keyword} {boundary : Bool} {s line before found tail : Text}

/-! ### What may stand around a use -/

/-- A line uses the keyword as it is: what stands before it ends with a blank or an opening sign, and behind it, with
or without blanks between, stands neither an assignment sign nor a word character. -/
structure PlainUse (k : Keyword) (line before found tail : Text) : Prop where
  line_eq : line = before ++ found ++ tail
  boundary : ∃ c, before.getLast? = some c ∧ (isBlank c = true ∨ c ∈ ['(', '[', '.', ','])
  spells : k.Spells found
  not_continued : ∀ blanks c rest, tail = blanks ++ c :: rest → (∀ b ∈ blanks, isBlank b = true) →
    c ≠ '=' ∧ isWordChar c = false

theorem isUseBoundary_iff {c : Char} : isUseBoundary c = true ↔ isBlank c = true ∨ c ∈ ['(', '[', '.', ','] := by
  rw [isUseBoundary, Bool.or_eq_true, List.contains_iff_mem]

/-- A use ends where neither an assignment sign nor a word character follows, blanks or not. -/
theorem endsUse_iff : endsUse tail = true ↔
    ∀ blanks c rest, tail = blanks ++ c :: rest → (∀ b ∈ blanks, isBlank b = true) →
      c ≠ '=' ∧ isWordChar c = false := by
  constructor
  · intro h blanks c rest htail hblanks
    cases hc : isBlank c with
    | true =>
      refine ⟨?_, isWordChar_of_isBlank hc⟩
      rintro rfl
      exact absurd hc (by decide)
    | false =>
      rw [htail, endsUse, trimStart_blank_append hblanks hc] at h
      simpa using h
  · intro h
    rw [endsUse]
    split
    · rfl
    · next c rest htrim =>
      have htail : tail = tail.takeWhile isBlank ++ c :: rest := by rw [← htrim, takeWhile_append_trimStart]
      obtain ⟨hsign, hword⟩ := h _ c rest htail fun b hb => isBlank_of_mem_takeWhile hb
      simp [hsign, hword]

/-! ### Uses from a place on -/

/-- In a whole line nothing stands before the first character. -/
theorem isUseFrom_false_iff : IsUseFrom k false line before found tail ↔ PlainUse k line before found tail := by
  have hboundary : before.getLast?.elim false isUseBoundary = true ↔
      ∃ c, before.getLast? = some c ∧ (isBlank c = true ∨ c ∈ ['(', '[', '.', ',']) := by
    simp only [← isUseBoundary_iff]
    cases before.getLast? <;> simp
  constructor
  · rintro ⟨hline, hbefore, hspells, hends⟩
    exact ⟨hline, hboundary.1 hbefore, hspells, endsUse_iff.1 hends⟩
  · rintro ⟨hline, hbefore, hspells, hends⟩
    exact ⟨hline, hboundary.2 hbefore, hspells, endsUse_iff.2 hends⟩

/-- If there is a use, the last use is found, and it has at least as much before it. -/
theorem exists_lastUse? (hk : k.text ≠ []) (h : IsUseFrom k boundary s before found tail) :
    ∃ before' found' tail', lastUse? k boundary s = some (before', found', tail') ∧ before.length ≤ before'.length := by
  induction s generalizing boundary before with
  | nil =>
    obtain ⟨hfront, -⟩ := List.append_eq_nil_iff.1 h.text_eq.symm
    exact absurd (List.append_eq_nil_iff.1 hfront).2 (h.spells.ne_nil hk)
  | cons c s ih =>
    rw [lastUse?]
    rcases isUseFrom_cons_iff.1 h with ⟨rfl, rfl, huse⟩ | ⟨more, rfl, hmore⟩
    · cases hlast : lastUse? k (isUseBoundary c) s with
      | some p => exact ⟨_, _, _, rfl, Nat.zero_le _⟩
      | none => exact ⟨[], found, tail, by simp [huse], Nat.le_of_eq rfl⟩
    · -- a use further on has more before it than one that starts here
      obtain ⟨before', found', tail', hlast, hlength⟩ := ih hmore
      rw [hlast]
      exact ⟨_, _, _, rfl, Nat.succ_le_succ hlength⟩

namespace Role

private theorem startsDeclaration_eq_false_iff :
    startsDeclaration line = false ↔ ¬ "class".toList <+: line ∧ ¬ "def".toList <+: line := by
  rw [startsDeclaration, Bool.or_eq_false_iff, ← Bool.not_eq_true, ← Bool.not_eq_true, List.isPrefixOf_iff_prefix,
    List.isPrefixOf_iff_prefix]

theorem match?_otherUse_eq_some_iff {m : Match} : Role.otherUse.match? k line = some m ↔
    '#' ∉ line ∧ (¬ "class".toList <+: line ∧ ¬ "def".toList <+: line) ∧
      ∃ before found tail, lastUse? k false line = some (before, found, tail) ∧
        m = ⟨.otherUse, before :: found :: (if tail.isEmpty then [] else [tail]), 1⟩ := by
  have hguard : ∀ (b : Bool) (u : Unit), guard (!b) = some u ↔ b = false := fun b u =>
    (Option.guard_eq_some' u).trans (Bool.not_eq_true' b).to_iff
  rw [← isCommentLine_eq_false_iff, ← startsDeclaration_eq_false_iff]
  constructor
  · intro h
    obtain ⟨u, hcomment, h⟩ := Option.bind_eq_some_iff.1 h
    obtain ⟨u', hdeclaration, h⟩ := Option.bind_eq_some_iff.1 h
    obtain ⟨⟨before, found, tail⟩, hlast, hm⟩ := Option.bind_eq_some_iff.1 h
    exact ⟨(hguard _ u).1 hcomment, (hguard _ u').1 hdeclaration, before, found, tail, hlast, (Option.some.inj hm).symm⟩
  · rintro ⟨hcomment, hdeclaration, before, found, tail, hlast, rfl⟩
    exact Option.bind_eq_some_iff.2 ⟨(), (hguard _ _).2 hcomment, Option.bind_eq_some_iff.2
      ⟨(), (hguard _ _).2 hdeclaration, Option.bind_eq_some_iff.2 ⟨_, hlast, rfl⟩⟩⟩

/-- A line is reported as another use exactly if it holds no number sign, starts neither with `class` nor with `def`,
and has a plain use of the keyword.  Of its plain uses the one with the most before it is reported. -/
theorem match?_otherUse_reports_last (hk : k.text ≠ []) (line : Text) :
    ((Role.otherUse.match? k line).isSome = true ↔
      '#' ∉ line ∧ ¬ "class".toList <+: line ∧ ¬ "def".toList <+: line ∧
        ∃ before found tail, PlainUse k line before found tail) ∧
    ∀ m, Role.otherUse.match? k line = some m → ∃ before found tail, PlainUse k line before found tail ∧
      (∀ before' found' tail', PlainUse k line before' found' tail' → before'.length ≤ before.length) ∧
      m = ⟨.otherUse, [before, found] ++ (if tail = [] then [] else [tail]), 1⟩ := by
  constructor
  · rw [Option.isSome_iff_exists]
    constructor
    · rintro ⟨m, hm⟩
      obtain ⟨hcomment, ⟨hclass, hdef⟩, before, found, tail, hlast, -⟩ := match?_otherUse_eq_some_iff.1 hm
      exact ⟨hcomment, hclass, hdef, before, found, tail, isUseFrom_false_iff.1 (.of_lastUse? hlast)⟩
    · rintro ⟨hcomment, hclass, hdef, before, found, tail, huse⟩
      obtain ⟨before', found', tail', hlast, -⟩ := exists_lastUse? hk (isUseFrom_false_iff.2 huse)
      exact ⟨_, match?_otherUse_eq_some_iff.2 ⟨hcomment, ⟨hclass, hdef⟩, before', found', tail', hlast, rfl⟩⟩
  · intro m hm
    obtain ⟨-, -, before, found, tail, hlast, rfl⟩ := match?_otherUse_eq_some_iff.1 hm
    refine ⟨before, found, tail, isUseFrom_false_iff.1 (.of_lastUse? hlast), fun before' found' tail' huse => ?_, ?_⟩
    · obtain ⟨before'', found'', tail'', hlast', hlength⟩ := exists_lastUse? hk (isUseFrom_false_iff.2 huse)
      rw [hlast] at hlast'
      cases hlast'
      exact hlength
    · cases tail <;> rfl

/-- Two plain uses of `a.a` overlap, and the second one is reported. -/
theorem match?_otherUse_reports_last_overlapping :
    let k : Keyword := ⟨['A', '.', 'a'], true⟩
    let line : Text := ['(', 'a', '.', 'a', '.', 'A', ')']
    let m : Match := ⟨.otherUse, [['(', 'a', '.'], ['a', '.', 'A'], [')']], 1⟩
    k.text ≠ [] ∧ Role.otherUse.match? k line = some m ∧
      PlainUse k line ['('] ['a', '.', 'a'] ['.', 'A', ')'] ∧
      ∃ before found tail, PlainUse k line before found tail ∧
        (∀ before' found' tail', PlainUse k line before' found' tail' → before'.length ≤ before.length) ∧
        m = ⟨.otherUse, [before, found] ++ (if tail = [] then [] else [tail]), 1⟩ := by
  intro k line m
  have hk : k.text ≠ [] := by decide
  have hm : Role.otherUse.match? k line = some m := by decide +kernel
  have hfirst : PlainUse k line ['('] ['a', '.', 'a'] ['.', 'A', ')'] :=
    isUseFrom_false_iff.1 ⟨rfl, by decide, by decide +kernel, by decide +kernel⟩
  exact ⟨hk, hm, hfirst, (match?_otherUse_reports_last hk line).2 m hm⟩

end Role

end KeywordFinder
