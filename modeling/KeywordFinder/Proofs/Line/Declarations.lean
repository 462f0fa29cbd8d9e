import KeywordFinder.Proofs.Line.Fragments
import KeywordFinder.Proofs.Line.Placement
import KeywordFinder.Proofs.Line.Precedence

/-!
# Declarations

A line is reported as a declaration of a class or a function exactly if it is no comment and has the parts of a
declaration, and it has them in one way only (`Role.match?_declaration_iff`).  The word that introduces the
declaration ends the indentation, the place of the keyword behind the blanks after that word is the only one
(`Keyword.Spells.place_unique`), and the parenthesis ends the blanks after the keyword (`Declares.unique`).
-/

namespace KeywordFinder

/-! ### The parts of a declaration -/

/-- The parts of a line that declares a name, without the word that introduces the declaration and the opening
parenthesis. -/
structure DeclarationParts where
  indent : Text
  gap : Text
  found : Text
  space : Text
  parameters : Text
deriving DecidableEq, Repr

namespace DeclarationParts

/-- What follows the name. -/
def tail (p : DeclarationParts) : Text := p.space ++ '(' :: p.parameters

/-- The parts as a display shows them, empty ones included. -/
def texts (word : Text) (p : DeclarationParts) : List Text := [p.indent, word, p.gap, p.found, p.tail]

/-- A line has the parts of a declaration of the keyword that `word` introduces. -/
structure Make (p : DeclarationParts) (word : Text) (k : Keyword) (line : Text) : Prop where
  line_eq : line = p.indent ++ word ++ p.gap ++ p.found ++ p.space ++ '(' :: p.parameters
  blank_indent : ∀ c ∈ p.indent, isBlank c = true
  blank_gap : ∀ c ∈ p.gap, isBlank c = true
  gap_ne_nil : p.gap ≠ []
  spells : k.Spells p.found
  blank_space : ∀ c ∈ p.space, isBlank c = true
  one_line : '\n' ∉ p.parameters

end DeclarationParts

theorem isBlank_parenthesis : isBlank '(' = false := by decide

/-- Parameters open behind blanks. -/
theorem opensParameters_iff {tail : Text} : opensParameters tail = true ↔
    ∃ space parameters, tail = space ++ '(' :: parameters ∧ (∀ c ∈ space, isBlank c = true) ∧ '\n' ∉ parameters := by
  constructor
  · intro h
    rw [opensParameters] at h
    split at h
    · next rest htrim =>
      refine ⟨tail.takeWhile isBlank, rest, ?_, fun c hc => isBlank_of_mem_takeWhile hc, by simpa using h⟩
      rw [← htrim, takeWhile_append_trimStart]
    · cases h
  · rintro ⟨space, parameters, rfl, hspace, hline⟩
    rw [opensParameters, trimStart_blank_append hspace isBlank_parenthesis]
    simpa using hline

theorem DeclarationParts.make_iff {p : DeclarationParts} {word : Text} {k : Keyword} {line : Text} :
    p.Make word k line ↔ Declares word k line p.indent p.gap p.found p.tail ∧ (∀ c ∈ p.space, isBlank c = true) ∧
      '\n' ∉ p.parameters := by
  constructor
  · rintro ⟨hline, hindent, hgap, hne, hspells, hspace, hone⟩
    have hopens : opensParameters p.tail = true := opensParameters_iff.2 ⟨_, _, rfl, hspace, hone⟩
    exact ⟨⟨by rw [hline, tail]; simp, hindent, hgap, hne, hspells, hopens⟩, hspace, hone⟩
  · rintro ⟨⟨hline, hindent, hgap, hne, hspells, -⟩, hspace, hone⟩
    exact ⟨by rw [hline, tail]; simp, hindent, hgap, hne, hspells, hspace, hone⟩

/-! ### One split -/

namespace Declares

variable {role : Role} {word : Text} {k : Keyword} {line indent gap found tail indent' gap' found' tail' : Text}

/-- What stands before a word that does not start with a blank are the blanks that the line starts with. -/
private theorem split_at_word {c : Char} {rest : Text} (hword : word = c :: rest) (hc : isBlank c = false)
    (h : Declares word k line indent gap found tail) :
    line.takeWhile isBlank = indent ∧ trimStart line = word ++ (gap ++ (found ++ tail)) := by
  have hline : line = indent ++ c :: (rest ++ (gap ++ (found ++ tail))) := by simp [h.line_eq, hword]
  rw [hline, takeWhile_blank_append h.blank_indent hc, trimStart_blank_append h.blank_indent hc, hword]
  exact ⟨rfl, rfl⟩

/-- A line declares a keyword that is not blank in one way only. -/
theorem unique {c : Char} {rest : Text} (hword : word = c :: rest) (hc : isBlank c = false)
    (hk : ∃ c ∈ k.text, isBlank c = false) (h : Declares word k line indent gap found tail)
    (h' : Declares word k line indent' gap' found' tail') :
    indent = indent' ∧ gap = gap' ∧ found = found' ∧ tail = tail' := by
  obtain ⟨hindent, htrim⟩ := h.split_at_word hword hc
  obtain ⟨hindent', htrim'⟩ := h'.split_at_word hword hc
  rw [htrim] at htrim'
  refine ⟨hindent.symm.trans hindent', ?_⟩
  exact h.spells.place_unique h'.spells hk h.blank_gap h'.blank_gap (List.append_cancel_left htrim')

/-- A line that declares a keyword that is not blank matches as a declaration. -/
theorem declaration?_eq {c : Char} {rest : Text} (hword : word = c :: rest) (hc : isBlank c = false)
    (hk : ∃ c ∈ k.text, isBlank c = false) (h : Declares word k line indent gap found tail) :
    declaration? role word k line = some (.ofParts role [indent, word, gap] found [tail]) := by
  obtain ⟨hindent, htrim⟩ := h.split_at_word hword hc
  have htake : takeWord? false word (trimStart line) = some (word, gap ++ (found ++ tail)) :=
    takeWord?_eq_some_iff.2 ⟨htrim, sameText_false.2 rfl⟩
  have hname : declaredName? k (found ++ tail) = some (found, tail) :=
    declaredName?_eq_some_iff.2 ⟨rfl, h.spells, h.opens⟩
  have hstart : ∀ s p, declaredName? k s = some p → ∃ rest, s = p.1 ++ rest ∧ k.Spells p.1 := by
    rintro s ⟨found', tail'⟩ hread
    obtain ⟨rfl, hspells, -⟩ := declaredName?_eq_some_iff.1 hread
    exact ⟨tail', rfl, hspells⟩
  have hskip : skipBlanks? (declaredName? k) (gap ++ (found ++ tail)) = some (gap, found, tail) :=
    Keyword.skipBlanks?_eq_some hk hstart h.blank_gap hname
  have hgap : (guard (!gap.isEmpty) : Option Unit) = some () := by
    have hne : gap.isEmpty = false := by simpa using h.gap_ne_nil
    rw [hne]
    rfl
  rw [← hindent]
  exact Option.bind_eq_some_iff.2 ⟨_, htake, Option.bind_eq_some_iff.2 ⟨_, hskip,
    Option.bind_eq_some_iff.2 ⟨_, hgap, rfl⟩⟩⟩

end Declares

/-- The parts of a declaration are the only ones of its line. -/
theorem DeclarationParts.Make.unique {p p' : DeclarationParts} {word : Text} {k : Keyword} {line : Text} {c : Char}
    {rest : Text} (hword : word = c :: rest) (hc : isBlank c = false) (hk : ∃ c ∈ k.text, isBlank c = false)
    (h : p.Make word k line) (h' : p'.Make word k line) : p = p' := by
  obtain ⟨hdeclares, hspace, -⟩ := make_iff.1 h
  obtain ⟨hdeclares', hspace', -⟩ := make_iff.1 h'
  obtain ⟨hindent, hgap, hfound, htail⟩ := hdeclares.unique hword hc hk hdeclares'
  obtain ⟨hblanks, -, hparameters⟩ :=
    blank_append_cons_inj htail hspace hspace' isBlank_parenthesis isBlank_parenthesis
  cases p
  cases p'
  simp_all

/-! ### Lines reported as declarations -/

namespace Role

/-- The word that introduces the declarations of a role. -/
def declaringWord? : Role → Option Text
  | classDecl => some "class".toList
  | functionDecl => some "def".toList
  | assignment => none
  | otherUse => none

variable {role : Role} {word : Text} {k : Keyword} {line : Text}

theorem exists_of_declaringWord? (h : role.declaringWord? = some word) :
    ∃ c rest, word = c :: rest ∧ isBlank c = false := by
  cases role with
  | classDecl =>
    cases h
    exact ⟨_, _, rfl, by decide⟩
  | functionDecl =>
    cases h
    exact ⟨_, _, rfl, by decide⟩
  | assignment => cases h
  | otherUse => cases h

/-- A role that declares matches the lines without a number sign that are its declarations. -/
private theorem match?_declaration_eq (h : role.declaringWord? = some word) (k : Keyword) (line : Text) :
    role.match? k line = if '#' ∈ line then none else declaration? role word k line := by
  split
  · next hmem => exact match?_of_isCommentLine (List.contains_iff_mem.2 hmem)
  · next hmem =>
    cases role with
    | classDecl =>
      cases h
      exact guard_isCommentLine_bind hmem _
    | functionDecl =>
      cases h
      exact guard_isCommentLine_bind hmem _
    | assignment => cases h
    | otherUse => cases h

/-- A line that is reported as a declaration holds no number sign and is one. -/
theorem exists_of_match?_declaration (hword : role.declaringWord? = some word) {m : Match}
    (h : role.match? k line = some m) :
    '#' ∉ line ∧ ∃ indent gap found tail, Declares word k line indent gap found tail ∧
      m = .ofParts role [indent, word, gap] found [tail] := by
  rw [match?_declaration_eq hword] at h
  split at h
  · cases h
  · next hmem => exact ⟨hmem, exists_of_declaration? h⟩

/-- A line that declares a keyword that is not blank is reported as a declaration, unless it holds a number sign. -/
theorem match?_of_declares (hword : role.declaringWord? = some word) (hk : ∃ c ∈ k.text, isBlank c = false)
    (hcomment : '#' ∉ line) {indent gap found tail : Text} (h : Declares word k line indent gap found tail) :
    role.match? k line = some (.ofParts role [indent, word, gap] found [tail]) := by
  obtain ⟨c, rest, hcons, hc⟩ := exists_of_declaringWord? hword
  rw [match?_declaration_eq hword, if_neg hcomment]
  exact h.declaration?_eq hcons hc hk

/-- A line is reported as a declaration of a keyword that is not blank exactly if it holds no number sign and has the
parts of one.  It has them in one way only, and the fragments are those that are not empty. -/
theorem match?_declaration_iff (hword : role.declaringWord? = some word) (hk : ∃ c ∈ k.text, isBlank c = false)
    (line : Text) :
    ((role.match? k line).isSome = true ↔ '#' ∉ line ∧ ∃ p : DeclarationParts, p.Make word k line) ∧
    (∀ p p' : DeclarationParts, p.Make word k line → p'.Make word k line → p = p') ∧
    ∀ (m : Match) (p : DeclarationParts), role.match? k line = some m → p.Make word k line →
      m.role = role ∧ m.fragments = (p.texts word).filter (!·.isEmpty) ∧
        m.keywordIndex = ([p.indent, word, p.gap].filter (!·.isEmpty)).length ∧
        m.fragments[m.keywordIndex]? = some p.found := by
  obtain ⟨c, rest, hcons, hc⟩ := exists_of_declaringWord? hword
  have hmatch : ∀ p : DeclarationParts, p.Make word k line → '#' ∉ line →
      role.match? k line = some (.ofParts role [p.indent, word, p.gap] p.found [p.tail]) := by
    intro p hp hcomment
    rw [match?_declaration_eq hword, if_neg hcomment]
    exact (DeclarationParts.make_iff.1 hp).1.declaration?_eq hcons hc hk
  have hsome : ∀ m, role.match? k line = some m → '#' ∉ line ∧ ∃ p : DeclarationParts, p.Make word k line := by
    intro m hm
    rw [match?_declaration_eq hword] at hm
    split at hm
    · cases hm
    · next hcomment =>
      obtain ⟨indent, gap, found, tail, hdeclares, -⟩ := exists_of_declaration? hm
      obtain ⟨space, parameters, rfl, hspace, hline⟩ := opensParameters_iff.1 hdeclares.opens
      exact ⟨hcomment, ⟨indent, gap, found, space, parameters⟩,
        DeclarationParts.make_iff.2 ⟨hdeclares, hspace, hline⟩⟩
  refine ⟨⟨fun h => ?_, fun ⟨hcomment, p, hp⟩ => ?_⟩, fun p p' hp hp' => hp.unique hcons hc hk hp',
    fun m p hm hp => ?_⟩
  · obtain ⟨m, hm⟩ := Option.isSome_iff_exists.1 h
    exact hsome m hm
  · rw [hmatch p hp hcomment]
    rfl
  · have hm' := hmatch p hp (hsome m hm).1
    rw [hm] at hm'
    cases hm'
    have hne : k.text ≠ [] := by
      obtain ⟨d, hd, -⟩ := hk
      exact List.ne_nil_of_mem hd
    have hfound : p.found ≠ [] := hp.spells.ne_nil hne
    exact ⟨rfl, rfl, by simp [Match.ofParts, hfound], Match.getElem?_ofParts hfound⟩

/-- Of the two blanks before the name one belongs to the keyword ` f(`, and so does the first parenthesis. -/
theorem match?_declaration_iff_blank_in_keyword :
    let k : Keyword := ⟨[' ', 'f', '('], true⟩
    let word : Text := "def".toList
    let line : Text := ['\t', 'd', 'e', 'f', ' ', ' ', 'F', '(', ' ', '(', 'x', ')']
    let p : DeclarationParts := ⟨['\t'], [' '], [' ', 'F', '('], [' '], ['x', ')']⟩
    let m : Match := ⟨.functionDecl, [['\t'], word, [' '], [' ', 'F', '('], [' ', '(', 'x', ')']], 3⟩
    Role.functionDecl.declaringWord? = some word ∧ (∃ c ∈ k.text, isBlank c = false) ∧ p.Make word k line ∧
      Role.functionDecl.match? k line = some m ∧ (Role.functionDecl.match? k line).isSome = true ∧
      (∀ p' : DeclarationParts, p'.Make word k line → p = p') ∧
      m.fragments = (p.texts word).filter (!·.isEmpty) ∧
      m.keywordIndex = ([p.indent, word, p.gap].filter (!·.isEmpty)).length ∧
      m.fragments[m.keywordIndex]? = some p.found := by
  intro k word line p m
  have hword : Role.functionDecl.declaringWord? = some word := rfl
  have hk : ∃ c ∈ k.text, isBlank c = false := ⟨'f', by decide, by decide⟩
  have hp : p.Make word k line :=
    ⟨rfl, List.all_eq_true.1 rfl, List.all_eq_true.1 rfl, by decide, by decide +kernel, List.all_eq_true.1 rfl, by decide⟩
  have hm : Role.functionDecl.match? k line = some m := by decide +kernel
  obtain ⟨hiff, hunique, hparts⟩ := match?_declaration_iff hword hk line
  obtain ⟨-, hfragments⟩ := hparts m p hm hp
  exact ⟨hword, hk, hp, hm, hiff.2 ⟨by decide, p, hp⟩, fun p' hp' => hunique p p' hp hp', hfragments⟩

end Role

end KeywordFinder
