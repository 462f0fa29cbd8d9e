import KeywordFinder.Proofs.Line.Declarations

/-!
# Assignments

A line is reported as an assignment exactly if it is no comment and has the parts of an assignment to the keyword, and
it has them in one way only (`Role.match?_assignment_iff`), although the keyword may hold assignment signs itself and
may start or end with blanks.  The place of the keyword behind the indentation is the only one
(`Keyword.Spells.place_unique`), and the sign ends the blanks after it (`Assigns.unique`).
-/

namespace KeywordFinder

/-! ### The parts of an assignment -/

/-- The parts of a line that assigns to a name, without the sign. -/
structure AssignmentParts where
  indent : Text
  found : Text
  gap : Text
  value : Text
deriving DecidableEq, Repr

namespace AssignmentParts

/-- The parts as a display shows them, empty ones included. -/
def texts (p : AssignmentParts) : List Text := [p.indent, p.found, p.gap, ['='], p.value]

/-- A line has the parts of an assignment to the keyword.  The value does not go on with a second sign, and it ends
with the line unless the line breaks right behind the sign. -/
structure Make (p : AssignmentParts) (k : Keyword) (line : Text) : Prop where
  line_eq : line = p.indent ++ p.found ++ p.gap ++ '=' :: p.value
  blank_indent : ∀ c ∈ p.indent, isBlank c = true
  spells : k.Spells p.found
  blank_gap : ∀ c ∈ p.gap, isBlank c = true
  value_allowed : p.value = [] ∨ ∃ c rest, p.value = c :: rest ∧ c ≠ '=' ∧ '\n' ∉ rest

end AssignmentParts

/-- What may stand behind the sign of an assignment. -/
theorem isValue_iff {value : Text} :
    isValue value = true ↔ value = [] ∨ ∃ c rest, value = c :: rest ∧ c ≠ '=' ∧ '\n' ∉ rest := by
  cases value with
  | nil => simp [isValue]
  | cons c rest =>
    rw [isValue, Bool.and_eq_true, bne_iff_ne, Bool.not_eq_true', ← Bool.not_eq_true, List.contains_iff_mem]
    constructor
    · exact fun h => .inr ⟨c, rest, rfl, h⟩
    · rintro (h | ⟨c', rest', h, hvalue⟩)
      · cases h
      · obtain ⟨rfl, rfl⟩ := List.cons.inj h
        exact hvalue

theorem AssignmentParts.make_iff {p : AssignmentParts} {k : Keyword} {line : Text} :
    p.Make k line ↔ Assigns k line p.indent p.found p.gap p.value := by
  constructor
  · rintro ⟨hline, hindent, hspells, hgap, hvalue⟩
    exact ⟨hline, hindent, hgap, hspells, isValue_iff.2 hvalue⟩
  · rintro ⟨hline, hindent, hgap, hspells, hvalue⟩
    exact ⟨hline, hindent, hspells, hgap, isValue_iff.1 hvalue⟩

/-! ### One split -/

namespace Assigns

variable {k : Keyword} {line indent found gap value indent' found' gap' value' : Text}

/-- A line assigns to a keyword that is not blank in one way only. -/
theorem unique (hk : ∃ c ∈ k.text, isBlank c = false) (h : Assigns k line indent found gap value)
    (h' : Assigns k line indent' found' gap' value') :
    indent = indent' ∧ found = found' ∧ gap = gap' ∧ value = value' := by
  have hline : indent ++ (found ++ (gap ++ '=' :: value)) = indent' ++ (found' ++ (gap' ++ '=' :: value')) := by
    have hboth := h.line_eq.symm.trans h'.line_eq
    simpa using hboth
  obtain ⟨hindent, hfound, htail⟩ := h.spells.place_unique h'.spells hk h.blank_indent h'.blank_indent hline
  obtain ⟨hgap, -, hvalue⟩ := blank_append_cons_inj htail h.blank_gap h'.blank_gap isBlank_sign isBlank_sign
  exact ⟨hindent, hfound, hgap, hvalue⟩

/-- A line that assigns to a keyword that is not blank matches as an assignment. -/
theorem assignment?_eq (hk : ∃ c ∈ k.text, isBlank c = false) (h : Assigns k line indent found gap value) :
    assignment? k line = some (.ofParts .assignment [indent] found [gap, ['='], value]) := by
  have hassigned : assigned? k (found ++ (gap ++ '=' :: value)) = some (found, gap, value) :=
    assigned?_eq_some_iff.2 ⟨by simp, by simp, h.blank_gap, h.spells, h.value_allowed⟩
  have hstart : ∀ s p, assigned? k s = some p → ∃ tail, s = p.1 ++ tail ∧ k.Spells p.1 := by
    rintro s ⟨found', gap', value'⟩ hread
    obtain ⟨rfl, -, -, hspells, -⟩ := assigned?_eq_some_iff.1 hread
    exact ⟨gap' ++ '=' :: value', by simp, hspells⟩
  have hskip : skipBlanks? (assigned? k) line = some (indent, found, gap, value) := by
    have hline : line = indent ++ (found ++ (gap ++ '=' :: value)) := by simp [h.line_eq]
    rw [hline]
    exact Keyword.skipBlanks?_eq_some hk hstart h.blank_indent hassigned
  exact Option.bind_eq_some_iff.2 ⟨_, hskip, rfl⟩

end Assigns

/-! ### Lines reported as assignments -/

namespace Role

variable {k : Keyword} {line : Text}

/-- A line that is reported as an assignment holds no number sign and is one. -/
theorem exists_of_match?_assignment {m : Match} (h : Role.assignment.match? k line = some m) :
    '#' ∉ line ∧ ∃ indent found gap value, Assigns k line indent found gap value ∧
      m = .ofParts .assignment [indent] found [gap, ['='], value] := by
  by_cases hmem : '#' ∈ line
  · rw [match?_of_isCommentLine (List.contains_iff_mem.2 hmem)] at h
    cases h
  · have hmatch : Role.assignment.match? k line = assignment? k line := guard_isCommentLine_bind hmem _
    rw [hmatch] at h
    exact ⟨hmem, exists_of_assignment? h⟩

/-- A line that assigns to a keyword that is not blank is reported as an assignment, unless it holds a number sign. -/
theorem match?_of_assigns (hk : ∃ c ∈ k.text, isBlank c = false) (hcomment : '#' ∉ line)
    {indent found gap value : Text} (h : Assigns k line indent found gap value) :
    Role.assignment.match? k line = some (.ofParts .assignment [indent] found [gap, ['='], value]) := by
  have hmatch : Role.assignment.match? k line = assignment? k line := guard_isCommentLine_bind hcomment _
  rw [hmatch]
  exact h.assignment?_eq hk

/-- A line is reported as an assignment to a keyword that is not blank exactly if it holds no number sign and has the
parts of one.  It has them in one way only, and the fragments are those that are not empty. -/
theorem match?_assignment_iff (hk : ∃ c ∈ k.text, isBlank c = false) (line : Text) :
    ((Role.assignment.match? k line).isSome = true ↔ '#' ∉ line ∧ ∃ p : AssignmentParts, p.Make k line) ∧
    (∀ p p' : AssignmentParts, p.Make k line → p'.Make k line → p = p') ∧
    ∀ (m : Match) (p : AssignmentParts), Role.assignment.match? k line = some m → p.Make k line →
      m.role = .assignment ∧ m.fragments = p.texts.filter (!·.isEmpty) ∧
        m.keywordIndex = ([p.indent].filter (!·.isEmpty)).length ∧
        m.fragments[m.keywordIndex]? = some p.found := by
  refine ⟨⟨fun h => ?_, fun ⟨hcomment, p, hp⟩ => ?_⟩, fun p p' hp hp' => ?_, fun m p hm hp => ?_⟩
  · obtain ⟨m, hm⟩ := Option.isSome_iff_exists.1 h
    obtain ⟨hcomment, indent, found, gap, value, hassigns, -⟩ := exists_of_match?_assignment hm
    exact ⟨hcomment, ⟨indent, found, gap, value⟩, AssignmentParts.make_iff.2 hassigns⟩
  · rw [match?_of_assigns hk hcomment (AssignmentParts.make_iff.1 hp)]
    rfl
  · obtain ⟨hindent, hfound, hgap, hvalue⟩ :=
      (AssignmentParts.make_iff.1 hp).unique hk (AssignmentParts.make_iff.1 hp')
    cases p
    cases p'
    simp_all
  · have hcomment := (exists_of_match?_assignment hm).1
    rw [match?_of_assigns hk hcomment (AssignmentParts.make_iff.1 hp)] at hm
    cases hm
    have hfound : p.found ≠ [] := hp.spells.ne_nil (ne_nil_of_not_blank hk)
    exact ⟨rfl, rfl, by simp [Match.ofParts, hfound], Match.getElem?_ofParts hfound⟩

/-- The first sign belongs to the keyword `a= `, as does the blank behind it, and the line may break behind the second
sign. -/
theorem match?_assignment_iff_sign_in_keyword :
    let k : Keyword := ⟨['a', '=', ' '], true⟩
    let line : Text := ['\t', 'A', '=', ' ', ' ', '=', '\n', '=', 'x']
    let p : AssignmentParts := ⟨['\t'], ['A', '=', ' '], [' '], ['\n', '=', 'x']⟩
    let m : Match := ⟨.assignment, [['\t'], ['A', '=', ' '], [' '], ['='], ['\n', '=', 'x']], 1⟩
    (∃ c ∈ k.text, isBlank c = false) ∧ p.Make k line ∧ Role.assignment.match? k line = some m ∧
      (Role.assignment.match? k line).isSome = true ∧
      (∀ p' : AssignmentParts, p'.Make k line → p = p') ∧
      m.fragments = p.texts.filter (!·.isEmpty) ∧
      m.keywordIndex = ([p.indent].filter (!·.isEmpty)).length ∧
      m.fragments[m.keywordIndex]? = some p.found := by
  intro k line p m
  have hk : ∃ c ∈ k.text, isBlank c = false := ⟨'a', by decide, by decide⟩
  have hp : p.Make k line :=
    ⟨rfl, List.all_eq_true.1 rfl, by decide +kernel, List.all_eq_true.1 rfl,
      .inr ⟨'\n', ['=', 'x'], rfl, by decide, by decide⟩⟩
  have hm : Role.assignment.match? k line = some m := by decide +kernel
  obtain ⟨hiff, hunique, hparts⟩ := match?_assignment_iff hk line
  obtain ⟨-, hfragments⟩ := hparts m p hm hp
  exact ⟨hk, hp, hm, hiff.2 ⟨by decide, p, hp⟩, fun p' hp' => hunique p p' hp hp', hfragments⟩

end Role

end KeywordFinder
