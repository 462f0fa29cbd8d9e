import KeywordFinder.Proofs.Line.Assignments

/-!
# Declarations and assignments exclude each other

At most one of the roles whose form takes up the whole line matches a line, so such a role is reported whatever other
roles are active (`Matcher.find?_reports_whole_line_role`).

* (two declarations) the words that introduce declarations differ in their first letters, and the blanks that a line
  starts with end there (`Declares.head_eq`);
* (a declaration and an assignment) the keyword may overlap itself and the declaring word, as `class class` does in
  `class class class`.  Without blanks a line that does both starts with the declaring word and the keyword, and also
  with the keyword and a sign, which is no longer.  But the word holds no sign, so there is one sign too many in the
  second (`Declares.not_assigns`).
-/

namespace KeywordFinder

/-! ### Texts without blanks -/

/-- A text without its blanks. -/
def withoutBlanks (s : Text) : Text := s.filter (!isBlank ·)

@[simp]
theorem withoutBlanks_append (s t : Text) : withoutBlanks (s ++ t) = withoutBlanks s ++ withoutBlanks t :=
  List.filter_append s t

theorem withoutBlanks_of_blank {s : Text} (h : ∀ c ∈ s, isBlank c = true) : withoutBlanks s = [] := by
  rw [withoutBlanks, List.filter_eq_nil_iff]
  intro c hc
  simp [h c hc]

theorem withoutBlanks_sign (s : Text) : withoutBlanks ('=' :: s) = '=' :: withoutBlanks s := by
  rw [withoutBlanks, List.filter_cons_of_pos (by simp [isBlank_sign])]
  rfl

theorem count_sign_withoutBlanks (s : Text) : (withoutBlanks s).count '=' = s.count '=' :=
  List.count_filter (by simp [isBlank_sign])

/-- Texts that are the same up to case have equally many characters that are not blank. -/
theorem SameText.length_withoutBlanks {ignoreCase : Bool} {s t : Text} (h : SameText ignoreCase s t) :
    (withoutBlanks s).length = (withoutBlanks t).length := by
  rw [withoutBlanks, withoutBlanks, ← List.countP_eq_length_filter, ← List.countP_eq_length_filter]
  exact h.countP_eq fun c => by rw [isBlank_foldCase]

/-! ### Two forms of one line -/

namespace Declares

variable {word : Text} {k : Keyword} {line indent gap found tail : Text}

/-- The words that introduce declarations on one line start with the same letter. -/
theorem head_eq {k' : Keyword} {indent' gap' found' tail' rest rest' : Text} {c c' : Char} (hc : isBlank c = false)
    (hc' : isBlank c' = false) (h : Declares (c :: rest) k line indent gap found tail)
    (h' : Declares (c' :: rest') k' line indent' gap' found' tail') : c = c' := by
  have hline : indent ++ c :: (rest ++ (gap ++ (found ++ tail))) =
      indent' ++ c' :: (rest' ++ (gap' ++ (found' ++ tail'))) := by
    have hboth := h.line_eq.symm.trans h'.line_eq
    simpa using hboth
  exact (blank_append_cons_inj hline h.blank_indent h'.blank_indent hc hc').2.1

/-- A line that declares a keyword does not assign to it. -/
theorem not_assigns {indent' found' gap' value' : Text} (hword : ∃ c ∈ word, isBlank c = false) (hsign : '=' ∉ word)
    (h : Declares word k line indent gap found tail) : ¬ Assigns k line indent' found' gap' value' := by
  intro h'
  have hdeclared : withoutBlanks line = withoutBlanks (word ++ found) ++ withoutBlanks tail := by
    simp [h.line_eq, withoutBlanks_of_blank h.blank_indent, withoutBlanks_of_blank h.blank_gap]
  have hassigned : withoutBlanks line = withoutBlanks (found' ++ ['=']) ++ withoutBlanks value' := by
    have hnil : withoutBlanks [] = [] := rfl
    simp [h'.line_eq, withoutBlanks_of_blank h'.blank_indent, withoutBlanks_of_blank h'.blank_gap,
      withoutBlanks_sign, hnil]
  -- both start the line without blanks, and the keyword with a sign is not the longer one
  have hlength : (withoutBlanks (found' ++ ['='])).length ≤ (withoutBlanks (word ++ found)).length := by
    obtain ⟨c, hc, hblank⟩ := hword
    have hpos : 0 < (withoutBlanks word).length := by
      apply List.length_pos_of_mem (a := c)
      exact List.mem_filter.2 ⟨hc, by simp [hblank]⟩
    have hfound := SameText.length_withoutBlanks h.spells
    have hfound' := SameText.length_withoutBlanks h'.spells
    have hone : (withoutBlanks ['=']).length = 1 := rfl
    simp only [withoutBlanks_append, List.length_append]
    omega
  have hprefix : withoutBlanks (found' ++ ['=']) <+: withoutBlanks (word ++ found) :=
    List.prefix_of_prefix_length_le ⟨_, hassigned.symm⟩ ⟨_, hdeclared.symm⟩ hlength
  have hcount : (found' ++ ['=']).count '=' ≤ (word ++ found).count '=' := by
    have hle := hprefix.sublist.count_le '='
    rwa [count_sign_withoutBlanks, count_sign_withoutBlanks] at hle
  have hfound := SameText.count_sign h.spells
  have hfound' := SameText.count_sign h'.spells
  have hone : List.count '=' ['='] = 1 := rfl
  rw [List.count_append, List.count_append, List.count_eq_zero.2 hsign] at hcount
  omega

end Declares

/-! ### Roles of whole lines -/

namespace Role

variable {role role' : Role} {word word' : Text} {k : Keyword} {line : Text} {r r' : Match}

theorem eq_assignment_or_declares (h : role ≠ .otherUse) :
    role = .assignment ∨ ∃ word, role.declaringWord? = some word := by
  cases role with
  | classDecl => exact .inr ⟨_, rfl⟩
  | functionDecl => exact .inr ⟨_, rfl⟩
  | assignment => exact .inl rfl
  | otherUse => exact absurd rfl h

/-- The words that introduce declarations start with different letters. -/
private theorem eq_of_head_declaringWord? : ∀ role ∈ Role.all, ∀ role' ∈ Role.all,
    role.declaringWord?.isSome = true → role.declaringWord?.bind List.head? = role'.declaringWord?.bind List.head? →
      role = role' := by
  decide

/-- Two roles that declare match one line only if they are the same. -/
private theorem eq_of_declarations (hword : role.declaringWord? = some word)
    (hword' : role'.declaringWord? = some word') (hr : role.match? k line = some r)
    (hr' : role'.match? k line = some r') : role = role' := by
  obtain ⟨-, indent, gap, found, tail, h, -⟩ := exists_of_match?_declaration hword hr
  obtain ⟨-, indent', gap', found', tail', h', -⟩ := exists_of_match?_declaration hword' hr'
  obtain ⟨c, rest, rfl, hc⟩ := exists_of_declaringWord? hword
  obtain ⟨c', rest', rfl, hc'⟩ := exists_of_declaringWord? hword'
  refine eq_of_head_declaringWord? role (mem_all role) role' (mem_all role') (by rw [hword]; rfl) ?_
  rw [hword, hword']
  exact congrArg some (h.head_eq hc hc' h')

/-- A role that declares does not match a line that matches as an assignment. -/
private theorem not_declaration_of_assignment (hword : role.declaringWord? = some word)
    (hr : role.match? k line = some r) : Role.assignment.match? k line ≠ some r' := by
  intro hr'
  obtain ⟨-, indent, gap, found, tail, h, -⟩ := exists_of_match?_declaration hword hr
  obtain ⟨-, indent', found', gap', value', h', -⟩ := exists_of_match?_assignment hr'
  have hsign : '=' ∉ word := by
    cases role <;> cases hword <;> decide
  obtain ⟨c, rest, rfl, hc⟩ := exists_of_declaringWord? hword
  exact h.not_assigns ⟨c, by simp, hc⟩ hsign h'

/-- At most one role that takes up the whole line matches it. -/
theorem eq_of_match? (hrole : role ≠ .otherUse) (hrole' : role' ≠ .otherUse) (hr : role.match? k line = some r)
    (hr' : role'.match? k line = some r') : role = role' := by
  rcases eq_assignment_or_declares hrole with rfl | ⟨word, hword⟩
  · rcases eq_assignment_or_declares hrole' with rfl | ⟨word', hword'⟩
    · rfl
    · exact absurd hr (not_declaration_of_assignment hword' hr')
  · rcases eq_assignment_or_declares hrole' with rfl | ⟨word', hword'⟩
    · exact absurd hr' (not_declaration_of_assignment hword hr)
    · exact eq_of_declarations hword hword' hr hr'

private theorem ne_otherUse_of_rank_lt (h : role'.rank < role.rank) : role' ≠ .otherUse := by
  rintro rfl
  cases role <;> exact absurd h (by decide)

end Role

namespace Matcher

/-- At most one of the roles of whole lines, which are all but other uses, matches a line.  If such a role is active
and matches, then the matcher reports its match, whatever other roles are active. -/
theorem find?_reports_whole_line_role (k : Keyword) (line : Text) :
    (∀ role role' : Role, role ≠ .otherUse → role' ≠ .otherUse → (role.match? k line).isSome = true →
      (role'.match? k line).isSome = true → role = role') ∧
    ∀ (selection : List Role) (m : Matcher) (role : Role) (r : Match), build? k selection = some m →
      Role.Active selection role → role ≠ .otherUse → role.match? k line = some r →
      m.find? line = some r ∧ r.role = role := by
  constructor
  · intro role role' hrole hrole' h h'
    obtain ⟨r, hr⟩ := Option.isSome_iff_exists.1 h
    obtain ⟨r', hr'⟩ := Option.isSome_iff_exists.1 h'
    exact Role.eq_of_match? hrole hrole' hr hr'
  · intro selection m role r hm hactive hrole hr
    obtain ⟨-, rfl⟩ := build?_eq_some_iff.1 hm
    refine ⟨find?_eq_some_iff.2 ⟨role, hactive, hr, fun role' _ hrank => ?_⟩, Role.role_of_match? hr⟩
    rw [Option.eq_none_iff_forall_ne_some]
    intro r' hr'
    have heq := Role.eq_of_match? (Role.ne_otherUse_of_rank_lt hrank) hrole hr' hr
    rw [heq] at hrank
    exact absurd hrank (Nat.lt_irrefl _)

/-- The keyword `class class` overlaps itself on the line that declares it, and the line goes on with a sign. -/
theorem find?_reports_whole_line_role_overlapping :
    let k : Keyword := ⟨"class class".toList, true⟩
    let selection : List Role := [.otherUse, .assignment, .classDecl]
    let m : Matcher := ⟨k, [.classDecl, .assignment, .otherUse]⟩
    let line : Text := "class class CLASS (=".toList
    let r : Match := ⟨.classDecl, ["class".toList, [' '], "class CLASS".toList, " (=".toList], 2⟩
    build? k selection = some m ∧ Role.Active selection .classDecl ∧ Role.classDecl ≠ .otherUse ∧
      Role.classDecl.match? k line = some r ∧
      (∀ role' : Role, role' ≠ .otherUse → (role'.match? k line).isSome = true → .classDecl = role') ∧
      m.find? line = some r ∧ r.role = .classDecl := by
  intro k selection m line r
  have hm : build? k selection = some m := by decide +kernel
  have hactive : Role.Active selection .classDecl := by decide
  have hrole : Role.classDecl ≠ .otherUse := by decide
  have hr : Role.classDecl.match? k line = some r := by decide +kernel
  have hsome : (Role.classDecl.match? k line).isSome = true := by rw [hr]; rfl
  obtain ⟨hexclusive, hreported⟩ := find?_reports_whole_line_role k line
  exact ⟨hm, hactive, hrole, hr, fun role' hrole' h => hexclusive .classDecl role' hrole hrole' hsome h,
    hreported selection m .classDecl r hm hactive hrole hr⟩

end Matcher

end KeywordFinder
