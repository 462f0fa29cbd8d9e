import KeywordFinder.Glob.Parser

/-!
# Signs of texts that are put together

What a glob starts with is said once (`firstSign`), together with what further characters change of it.  Behind a text
whose signs are all complete, they only add their own signs (`globSigns_append`).  A problem stays one whatever follows
it without a closing bracket, unless it is an escape that has nothing to escape yet (`exists_escape_of_not_clear`).
-/

namespace KeywordFinder

/-! ### Character classes -/

section Classes

variable {negated first inRange : Bool} {ranges : List (Char × Char)} {read : Nat} {s t : Text}

/-- A character ends the members of a class, the bracket as the end of the class, or it is one of the members. -/
private theorem readMembers_cons (negated first inRange : Bool) (ranges : List (Char × Char)) (read : Nat) (c : Char) :
    (∃ reading, (∀ s, readMembers negated first inRange ranges read (c :: s) = reading) ∧ reading ≠ .unclosed ∧
        ∀ n rs k, reading = .closed n rs k → c = ']' ∧ k = read + 1) ∨
      ∃ first' inRange' ranges', ∀ s, readMembers negated first inRange ranges read (c :: s) =
        readMembers negated first' inRange' ranges' (read + 1) s := by
  simp only [readMembers]
  by_cases hclose : (c = ']' && !first) = true
  · left
    refine ⟨_, fun s => if_pos hclose, by simp, ?_⟩
    rintro n rs k ⟨⟩
    exact ⟨by simp_all, rfl⟩
  simp only [hclose, Bool.false_eq_true, if_false]
  by_cases hhyphen : (c = '-' && !first && !inRange) = true
  · exact .inr ⟨_, _, _, fun s => if_pos hhyphen⟩
  simp only [hhyphen, Bool.false_eq_true, if_false]
  split
  · next lo hi more =>
    by_cases hlo : c < lo
    · simp [hlo]
    · exact .inr ⟨_, _, _, fun s => if_neg hlo⟩
  · exact .inr ⟨_, _, _, fun s => rfl⟩

/-- How the reading of members ends is not changed by what follows the end. -/
private theorem readMembers_append (h : readMembers negated first inRange ranges read s ≠ .unclosed) (t : Text) :
    readMembers negated first inRange ranges read (s ++ t) = readMembers negated first inRange ranges read s := by
  induction s generalizing first inRange ranges read with
  | nil => exact absurd rfl h
  | cons c s ih =>
    rcases readMembers_cons negated first inRange ranges read c with ⟨reading, hends, -⟩ | ⟨_, _, _, hgoes⟩
    · rw [List.cons_append, hends, hends]
    · rw [hgoes] at h
      rw [List.cons_append, hgoes, hgoes, ih h]

/-- Members end with a bracket. -/
private theorem mem_of_readMembers {n : Bool} {rs : List (Char × Char)} {k : Nat}
    (h : readMembers negated first inRange ranges read s = .closed n rs k) : k ≤ read + s.length ∧ ']' ∈ s := by
  induction s generalizing first inRange ranges read with
  | nil => cases h
  | cons c s ih =>
    rw [List.length_cons]
    rcases readMembers_cons negated first inRange ranges read c with ⟨reading, hends, -, hclosed⟩ | ⟨_, _, _, hgoes⟩
    · rw [hends] at h
      obtain ⟨rfl, rfl⟩ := hclosed n rs k h
      exact ⟨by omega, List.mem_cons_self⟩
    · rw [hgoes] at h
      obtain ⟨hk, hmem⟩ := ih h
      exact ⟨by omega, List.mem_cons_of_mem _ hmem⟩

/-- If members do not end, the bracket at their end has to be in what follows. -/
private theorem mem_of_readMembers_append {n : Bool} {rs : List (Char × Char)} {k : Nat}
    (hopen : readMembers negated first inRange ranges read s = .unclosed)
    (h : readMembers negated first inRange ranges read (s ++ t) = .closed n rs k) : ']' ∈ t := by
  induction s generalizing first inRange ranges read with
  | nil => exact (mem_of_readMembers h).2
  | cons c s ih =>
    rcases readMembers_cons negated first inRange ranges read c with ⟨reading, hends, hreading, -⟩ | ⟨_, _, _, hgoes⟩
    · rw [hends] at hopen
      exact absurd hopen hreading
    · rw [hgoes] at hopen
      rw [List.cons_append, hgoes] at h
      exact ih hopen h

/-- A class starts with its members or with the mark of a negated one. -/
private theorem readClass_cons (c : Char) :
    (∀ s, readClass (c :: s) = readMembers true true false [] 1 s) ∨
      ∀ s, readClass (c :: s) = readMembers false true false [] 0 (c :: s) := by
  by_cases hmark : c = '!' ∨ c = '^'
  · rcases hmark with rfl | rfl
    · exact .inl fun s => rfl
    · exact .inl fun s => rfl
  · obtain ⟨hbang, hcaret⟩ := not_or.1 hmark
    exact .inr fun s => by simp [readClass, hbang, hcaret]

private theorem readClass_append (h : readClass s ≠ .unclosed) (t : Text) : readClass (s ++ t) = readClass s := by
  cases s with
  | nil => exact absurd rfl h
  | cons c s =>
    rw [List.cons_append]
    rcases readClass_cons c with hclass | hclass
    · rw [hclass] at h
      rw [hclass, hclass, readMembers_append h]
    · rw [hclass] at h
      rw [hclass, hclass, ← List.cons_append, readMembers_append h]

private theorem mem_of_readClass {n : Bool} {rs : List (Char × Char)} {k : Nat}
    (h : readClass s = .closed n rs k) : k ≤ s.length ∧ ']' ∈ s := by
  cases s with
  | nil => cases h
  | cons c s =>
    rcases readClass_cons c with hclass | hclass
    · rw [hclass] at h
      obtain ⟨hk, hmem⟩ := mem_of_readMembers h
      exact ⟨by rw [List.length_cons]; omega, List.mem_cons_of_mem _ hmem⟩
    · rw [hclass] at h
      simpa using mem_of_readMembers h

private theorem mem_of_readClass_append {n : Bool} {rs : List (Char × Char)} {k : Nat}
    (hopen : readClass s = .unclosed) (h : readClass (s ++ t) = .closed n rs k) : ']' ∈ t := by
  cases s with
  | nil => exact (mem_of_readClass h).2
  | cons c s =>
    rw [List.cons_append] at h
    rcases readClass_cons c with hclass | hclass
    · rw [hclass] at h hopen
      exact mem_of_readMembers_append hopen h
    · rw [hclass] at h hopen
      exact mem_of_readMembers_append hopen h

end Classes

/-! ### First signs -/

/-- The sign that a text starts with, and the number of characters that it takes after the first one. -/
def firstSign (c : Char) (s : Text) : Except GlobProblem (GlobSign × Nat) :=
  match c with
  | '?' => .ok (.question, 0)
  | '*' => if s.head? = some '*' then .ok (.doubleStar, 1) else .ok (.star, 0)
  | '{' => .ok (.openGroup, 0)
  | '}' => .ok (.closeGroup, 0)
  | ',' => .ok (.comma, 0)
  | '\\' =>
    match s.head? with
    | some d => .ok (.literal d true, 1)
    | none => .error .danglingEscape
  | '[' =>
    match readClass s with
    | .closed negated ranges read => .ok (.oneOf negated (ranges.reverse.flatMap byteRanges), read)
    | .unclosed => .error .unclosedClass
    | .invalidRange a b => .error (.invalidRange a b)
  | c => .ok (.literal c false, 0)

theorem globSigns_cons (c : Char) (s : Text) : globSigns false true 0 (c :: s) =
    match firstSign c s with
    | .ok (sign, read) => sign :: globSigns false true read s
    | .error problem => [.problem problem] := by
  fun_cases firstSign c s <;> simp_all [globSigns]

section

variable {c : Char} {s t : Text} {sign : GlobSign} {read : Nat} {problem : GlobProblem}

/-- A sign that is complete is no problem, and what it takes is there. -/
theorem firstSign_eq_ok (h : firstSign c s = .ok (sign, read)) :
    (∀ problem, sign ≠ .problem problem) ∧ read ≤ s.length := by
  fun_cases firstSign c s with
  | case2 hnext | case7 d hnext =>
    -- a double star or an escape takes one more character
    obtain ⟨s, rfl⟩ := List.head?_eq_some_iff.1 hnext
    cases h
    simp
  | case9 negated ranges taken hread =>
    -- a class takes what is read up to its bracket
    simp only [firstSign, hread] at h
    cases h
    exact ⟨by simp, (mem_of_readClass hread).1⟩
  | _ => grind [firstSign]

/-- Without a star no sign is a double star. -/
theorem firstSign_ne_doubleStar (h : firstSign c s = .ok (sign, read)) (hc : c ≠ '*') : sign ≠ .doubleStar := by
  fun_cases firstSign c s with
  | case2 | case3 => exact absurd rfl hc
  | _ => grind [firstSign]

/-- A sign that is complete is not changed by what follows it, but two stars that meet are one sign. -/
theorem firstSign_append (h : firstSign c s = .ok (sign, read)) (hstar : c = '*' → s = [] → t.head? ≠ some '*') :
    firstSign c (s ++ t) = .ok (sign, read) := by
  fun_cases firstSign c s with
  | case2 hnext | case3 hnext => cases s <;> simp_all [firstSign]
  | case7 d hnext =>
    obtain ⟨s, rfl⟩ := List.head?_eq_some_iff.1 hnext
    exact h
  | case9 negated ranges taken hread =>
    have happend : readClass (s ++ t) = readClass s := readClass_append (by simp [hread]) t
    simp_all [firstSign]
  | _ => simp_all [firstSign]

/-- A problem stays one, unless it is an escape at the end or what follows closes a class. -/
theorem firstSign_append_of_error (h : firstSign c s = .error problem) (ht : ']' ∉ t) :
    c = '\\' ∧ s = [] ∨ ∃ problem, firstSign c (s ++ t) = .error problem := by
  fun_cases firstSign c s with
  | case8 hnext => exact .inl ⟨rfl, List.head?_eq_none_iff.1 hnext⟩
  | case10 hopen =>
    -- an unclosed class may get a range that is not valid
    right
    cases hread : readClass (s ++ t) with
    | closed n rs k => exact absurd (mem_of_readClass_append hopen hread) ht
    | unclosed => exact ⟨.unclosedClass, by simp [firstSign, hread]⟩
    | invalidRange a b => exact ⟨.invalidRange a b, by simp [firstSign, hread]⟩
  | case11 a b hread =>
    have happend : readClass (s ++ t) = readClass s := readClass_append (by simp [hread]) t
    exact .inr ⟨.invalidRange a b, by simp [firstSign, happend, hread]⟩
  | _ => simp_all [firstSign]

/-- A sign that does not take the backslash behind a text is there without it. -/
theorem firstSign_of_append (h : firstSign c (s ++ ['\\']) = .ok (sign, read)) (hread : read ≤ s.length) :
    firstSign c s = .ok (sign, read) := by
  cases hfirst : firstSign c s with
  | ok found =>
    obtain ⟨sign', read'⟩ := found
    rw [← h, firstSign_append hfirst (by simp)]
  | error problem =>
    rcases firstSign_append_of_error hfirst (t := ['\\']) (by simp) with ⟨rfl, rfl⟩ | ⟨problem', hstays⟩
    · cases h
      cases hread
    · rw [hstays] at h
      cases h

end

/-! ### Signs -/

/-- Whether signs are free of problems. -/
def Clear (signs : List GlobSign) : Prop := ∀ problem, .problem problem ∉ signs

theorem clear_cons {sign : GlobSign} {signs : List GlobSign} (hsign : ∀ problem, sign ≠ .problem problem) :
    Clear (sign :: signs) ↔ Clear signs := by
  simp [Clear, fun problem => (hsign problem).symm]

variable {p t : Text} {skip : Nat}

theorem doubleStar_not_mem (h : '*' ∉ p) (skip : Nat) : .doubleStar ∉ globSigns false true skip p := by
  induction p generalizing skip with
  | nil => simp [globSigns]
  | cons c p ih =>
    obtain ⟨hc, hp⟩ := List.ne_and_not_mem_of_not_mem_cons h
    cases skip with
    | succ skip =>
      rw [globSigns]
      exact ih hp skip
    | zero =>
      rw [globSigns_cons]
      split
      · next sign read hfirst => simp [ih hp read, (firstSign_ne_doubleStar hfirst hc.symm).symm]
      · simp

/-- Characters that are put behind a text whose signs are complete add their own signs, unless stars meet. -/
theorem globSigns_append (hskip : skip ≤ p.length) (hclear : Clear (globSigns false true skip p))
    (hstar : p.getLast? ≠ some '*' ∨ t.head? ≠ some '*') :
    globSigns false true skip (p ++ t) = globSigns false true skip p ++ globSigns false true 0 t := by
  induction p generalizing skip with
  | nil =>
    obtain rfl : skip = 0 := Nat.le_zero.1 hskip
    simp [globSigns]
  | cons c p ih =>
    have hlater : p.getLast? ≠ some '*' ∨ t.head? ≠ some '*' := by
      refine hstar.imp_left fun hlast hp => hlast ?_
      rw [List.getLast?_cons, hp]
      rfl
    cases skip with
    | succ skip =>
      rw [globSigns] at hclear
      rw [List.cons_append, globSigns, globSigns]
      exact ih (Nat.le_of_succ_le_succ hskip) hclear hlater
    | zero =>
      rw [globSigns_cons] at hclear
      rw [List.cons_append, globSigns_cons, globSigns_cons]
      cases hfirst : firstSign c p with
      | error problem =>
        rw [hfirst] at hclear
        exact absurd List.mem_cons_self (hclear problem)
      | ok found =>
        obtain ⟨sign, read⟩ := found
        obtain ⟨hsign, hread⟩ := firstSign_eq_ok hfirst
        have hmeet : c = '*' → p = [] → t.head? ≠ some '*' := by
          rintro rfl rfl
          exact hstar.resolve_left (by simp)
        rw [hfirst] at hclear
        rw [firstSign_append hfirst hmeet]
        show sign :: _ = sign :: (_ ++ _)
        rw [ih hread ((clear_cons hsign).1 hclear) hlater]

/-- What follows a text with a problem does not mend it if it closes no class, unless the text ends with an escape and
is complete up to there. -/
theorem exists_escape_of_not_clear (h : ¬ Clear (globSigns false true skip p)) :
    (∃ q, p = q ++ ['\\'] ∧ skip ≤ q.length ∧ Clear (globSigns false true skip q)) ∨
      ∀ t, ']' ∉ t → ¬ Clear (globSigns false true skip (p ++ t)) := by
  induction p generalizing skip with
  | nil => exact absurd (fun _ => by simp [globSigns]) h
  | cons c p ih =>
    cases skip with
    | succ skip =>
      rw [globSigns] at h
      refine (ih h).imp ?_ fun hstays t ht => ?_
      · rintro ⟨q, rfl, hskip, hclear⟩
        exact ⟨c :: q, rfl, Nat.succ_le_succ hskip, by rwa [globSigns]⟩
      · rw [List.cons_append, globSigns]
        exact hstays t ht
    | zero =>
      rw [globSigns_cons] at h
      cases hfirst : firstSign c p with
      | error problem =>
        by_cases hlast : c = '\\' ∧ p = []
        · obtain ⟨rfl, rfl⟩ := hlast
          exact .inl ⟨[], rfl, Nat.le_refl 0, by simp [globSigns, Clear]⟩
        · refine .inr fun t ht hclear => ?_
          obtain ⟨problem', hstays⟩ := (firstSign_append_of_error hfirst ht).resolve_left hlast
          rw [List.cons_append, globSigns_cons, hstays] at hclear
          exact hclear problem' List.mem_cons_self
      | ok found =>
        obtain ⟨sign, read⟩ := found
        obtain ⟨hsign, hread⟩ := firstSign_eq_ok hfirst
        rw [hfirst] at h
        have hlater : ¬ Clear (globSigns false true read p) := fun hclear => h ((clear_cons hsign).2 hclear)
        rcases ih hlater with ⟨q, rfl, hskip, hclear⟩ | hstays
        · refine .inl ⟨c :: q, rfl, Nat.zero_le _, ?_⟩
          rw [globSigns_cons, firstSign_of_append hfirst hskip]
          exact (clear_cons hsign).2 hclear
        · refine .inr fun t ht hclear => ?_
          have hmeet : c = '*' → p = [] → t.head? ≠ some '*' := by
            rintro - rfl
            exact absurd (fun _ => by simp [globSigns]) hlater
          rw [List.cons_append, globSigns_cons, firstSign_append hfirst hmeet] at hclear
          exact hstays t ht ((clear_cons hsign).1 hclear)

end KeywordFinder
