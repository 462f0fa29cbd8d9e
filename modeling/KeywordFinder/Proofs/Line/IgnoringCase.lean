import KeywordFinder.Failure
import KeywordFinder.Proofs.Line.Exclusion
import KeywordFinder.Proofs.Line.LastUse

/-!
# Ignoring case

What a matcher that ignores case finds, beside a matcher that does not, and beside a matcher for another spelling of
the keyword.

* (more spellings) a keyword with more spellings still has every form that a line had, and it stands in the same place
  in a role of whole lines, where there is only one place for it (`Role.match?_of_more_spellings`).  In other uses its
  last place may be further on (`Role.exists_match?_otherUse_of_more_spellings`).  So ignoring case only adds reports,
  and only moves a line to an earlier role (`Matcher.find?_ignoring_case`).
* (the same spellings) a match depends on the keyword only through what is taken off the front of a text
  (`Role.match?_congr`), so a keyword may be typed in any case (`Matcher.find?_of_same_keyword`).
-/

namespace KeywordFinder

/-! ### Texts and spellings -/

/-- Ignoring case a keyword has the spellings that it has otherwise, and more. -/
theorem Keyword.Spells.ignoringCase {text s : Text} (h : Keyword.Spells ⟨text, false⟩ s) :
    Keyword.Spells ⟨text, true⟩ s :=
  congrArg (List.map foldCase) (sameText_false.1 h)

/-- Ignoring case, keywords that are the same up to case have the same spellings. -/
theorem SameText.spells_iff {text text' s : Text} (h : SameText true text text') :
    Keyword.Spells ⟨text, true⟩ s ↔ Keyword.Spells ⟨text', true⟩ s := by
  have hfold := sameText_true.1 h
  show SameText true text s ↔ SameText true text' s
  rw [sameText_true, sameText_true, hfold]

/-- A text that is accepted as a keyword is not blank. -/
theorem exists_not_blank_of_checkKeyword {text : Text} (h : checkKeyword text = .ok ()) :
    ∃ c ∈ text, isBlank c = false := by
  by_contra hnone
  have hblank : ∀ c ∈ text, isBlank c = true := by simpa using hnone
  have htrim : trimStart text = [] := List.dropWhile_eq_nil_iff.2 hblank
  have hproblem : keywordProblem? text = some .empty := by
    rw [keywordProblem?, trim, htrim]
    rfl
  rw [checkKeyword, hproblem] at h
  cases h

/-! ### More spellings -/

section MoreSpellings

variable {k k' : Keyword} {line : Text}

theorem Declares.of_more_spellings (hmore : ∀ s, k.Spells s → k'.Spells s) {word indent gap found tail : Text}
    (h : Declares word k line indent gap found tail) : Declares word k' line indent gap found tail :=
  ⟨h.line_eq, h.blank_indent, h.blank_gap, h.gap_ne_nil, hmore found h.spells, h.opens⟩

theorem Assigns.of_more_spellings (hmore : ∀ s, k.Spells s → k'.Spells s) {indent found gap value : Text}
    (h : Assigns k line indent found gap value) : Assigns k' line indent found gap value :=
  ⟨h.line_eq, h.blank_indent, h.blank_gap, hmore found h.spells, h.value_allowed⟩

theorem IsUseFrom.of_more_spellings (hmore : ∀ s, k.Spells s → k'.Spells s) {boundary : Bool}
    {before found tail : Text} (h : IsUseFrom k boundary line before found tail) :
    IsUseFrom k' boundary line before found tail :=
  ⟨h.text_eq, h.boundary, hmore found h.spells, h.ends⟩

/-- The match in a role of whole lines stays the same if the keyword gets more spellings. -/
theorem Role.match?_of_more_spellings (hmore : ∀ s, k.Spells s → k'.Spells s)
    (hk' : ∃ c ∈ k'.text, isBlank c = false) {role : Role} (hrole : role ≠ .otherUse) {r : Match}
    (h : role.match? k line = some r) : role.match? k' line = some r := by
  rcases eq_assignment_or_declares hrole with rfl | ⟨word, hword⟩
  · obtain ⟨hcomment, indent, found, gap, value, hassigns, rfl⟩ := exists_of_match?_assignment h
    exact match?_of_assigns hk' hcomment (hassigns.of_more_spellings hmore)
  · obtain ⟨hcomment, indent, gap, found, tail, hdeclares, rfl⟩ := exists_of_match?_declaration hword h
    exact match?_of_declares hword hk' hcomment (hdeclares.of_more_spellings hmore)

/-- The match as another use does not move forward if the keyword gets more spellings. -/
theorem Role.exists_match?_otherUse_of_more_spellings (hmore : ∀ s, k.Spells s → k'.Spells s) (hk' : k'.text ≠ [])
    {r : Match} (h : Role.otherUse.match? k line = some r) :
    ∃ r' before before', Role.otherUse.match? k' line = some r' ∧ r.fragments[0]? = some before ∧
      r'.fragments[0]? = some before' ∧ before <+: before' := by
  obtain ⟨hcomment, hdeclaration, before, found, tail, hlast, rfl⟩ := match?_otherUse_eq_some_iff.1 h
  have huse := IsUseFrom.of_lastUse? hlast
  obtain ⟨before', found', tail', hlast', hlength⟩ := exists_lastUse? hk' (huse.of_more_spellings hmore)
  have huse' := IsUseFrom.of_lastUse? hlast'
  have hbefore : before <+: line := ⟨found ++ tail, by rw [huse.text_eq, List.append_assoc]⟩
  have hbefore' : before' <+: line := ⟨found' ++ tail', by rw [huse'.text_eq, List.append_assoc]⟩
  exact ⟨_, before, before', match?_otherUse_eq_some_iff.2 ⟨hcomment, hdeclaration, _, _, _, hlast', rfl⟩, rfl, rfl,
    List.prefix_of_prefix_length_le hbefore hbefore' hlength⟩

end MoreSpellings

/-! ### The same spellings -/

section SameSpellings

variable {k k' : Keyword}

/-- Keywords with the same spellings are taken off the front of a text in the same way. -/
theorem Keyword.take?_congr (h : ∀ s, k.Spells s ↔ k'.Spells s) : k.take? = k'.take? := by
  funext s
  apply Option.ext
  rintro ⟨found, rest⟩
  rw [Keyword.take?_eq_some_iff, Keyword.take?_eq_some_iff, h]

private theorem declaredName?_congr (h : k.take? = k'.take?) : declaredName? k = declaredName? k' := by
  funext s
  rw [declaredName?, declaredName?, h]

private theorem assigned?_congr (h : k.take? = k'.take?) : assigned? k = assigned? k' := by
  funext s
  rw [assigned?, assigned?, h]

private theorem lastUse?_congr (h : k.take? = k'.take?) (boundary : Bool) (s : Text) :
    lastUse? k boundary s = lastUse? k' boundary s := by
  induction s generalizing boundary with
  | nil => rfl
  | cons c s ih => rw [lastUse?, lastUse?, ih, useAt?, useAt?, h]

/-- A match depends on the keyword only through what is taken off the front of a text. -/
theorem Role.match?_congr (h : k.take? = k'.take?) (role : Role) (line : Text) :
    role.match? k line = role.match? k' line := by
  cases role with
  | classDecl => simp only [match?, declaration?, declaredName?_congr h]
  | functionDecl => simp only [match?, declaration?, declaredName?_congr h]
  | assignment => simp only [match?, assignment?, assigned?_congr h]
  | otherUse => simp only [match?, otherUse?, lastUse?_congr h]

end SameSpellings

/-! ### What a matcher reports -/

namespace Matcher

/-- Where a matcher that does not ignore case reports a line, one that does reports it too, in the same role or in an
earlier one: in the same role of whole lines with the same match, and as another use with a place that is no less far
on, since what stands before the one place starts what stands before the other. -/
theorem find?_ignoring_case {text : Text} {selection : List Role} {strict lax : Matcher} {line : Text} {r : Match}
    (hkeyword : checkKeyword text = .ok ()) (hstrict : build? ⟨text, false⟩ selection = some strict)
    (hlax : build? ⟨text, true⟩ selection = some lax) (hr : strict.find? line = some r) :
    ∃ r', lax.find? line = some r' ∧ r'.role.rank ≤ r.role.rank ∧
      (r'.role = r.role → r.role ≠ .otherUse → r' = r) ∧
      (r'.role = r.role → r.role = .otherUse → ∃ before before', r.fragments[0]? = some before ∧
        r'.fragments[0]? = some before' ∧ before <+: before') := by
  obtain ⟨-, rfl⟩ := build?_eq_some_iff.1 hstrict
  obtain ⟨-, rfl⟩ := build?_eq_some_iff.1 hlax
  have hblank := exists_not_blank_of_checkKeyword hkeyword
  have hne : text ≠ [] := ne_nil_of_not_blank hblank
  have hmore : ∀ s, Keyword.Spells ⟨text, false⟩ s → Keyword.Spells ⟨text, true⟩ s := fun _ h => h.ignoringCase
  obtain ⟨role, hactive, hmatch, -⟩ := find?_eq_some_iff.1 hr
  obtain rfl := Role.role_of_match? hmatch
  -- the role that matched still matches, so the matcher reports this role or an earlier one
  have hlaxmatch : ∃ r', r.role.match? ⟨text, true⟩ line = some r' := by
    by_cases huse : r.role = .otherUse
    · rw [huse] at hmatch ⊢
      obtain ⟨r', -, -, h, -⟩ := Role.exists_match?_otherUse_of_more_spellings hmore hne hmatch
      exact ⟨r', h⟩
    · exact ⟨r, Role.match?_of_more_spellings hmore hblank huse hmatch⟩
  obtain ⟨_, hstill⟩ := hlaxmatch
  obtain ⟨r', hr', hrank⟩ := exists_find?_of_match? hactive hstill
  have hmatch' := match?_of_find? hr'
  refine ⟨r', hr', hrank, fun hsame huse => ?_, fun hsame huse => ?_⟩
  · rw [hsame, Role.match?_of_more_spellings hmore hblank huse hmatch] at hmatch'
    exact (Option.some.inj hmatch').symm
  · rw [hsame, huse] at hmatch'
    rw [huse] at hmatch
    obtain ⟨r'', before, before', h, hbefore, hbefore', hprefix⟩ :=
      Role.exists_match?_otherUse_of_more_spellings hmore hne hmatch
    rw [hmatch'] at h
    cases h
    exact ⟨before, before', hbefore, hbefore', hprefix⟩

/-- The second `foo` on the line is in capitals, so it is a use only if case is ignored. -/
theorem find?_ignoring_case_later_use :
    let text : Text := "foo".toList
    let strict : Matcher := ⟨⟨text, false⟩, Role.all⟩
    let lax : Matcher := ⟨⟨text, true⟩, Role.all⟩
    let line : Text := "a.foo, b.FOO".toList
    let r : Match := ⟨.otherUse, ["a.".toList, "foo".toList, ", b.FOO".toList], 1⟩
    checkKeyword text = .ok () ∧ build? ⟨text, false⟩ [] = some strict ∧ build? ⟨text, true⟩ [] = some lax ∧
      strict.find? line = some r ∧
      ∃ r', lax.find? line = some r' ∧ r'.role.rank ≤ r.role.rank ∧
        (r'.role = r.role → r.role ≠ .otherUse → r' = r) ∧
        (r'.role = r.role → r.role = .otherUse → ∃ before before', r.fragments[0]? = some before ∧
          r'.fragments[0]? = some before' ∧ before <+: before') := by
  intro text strict lax line r
  have hkeyword : checkKeyword text = .ok () := by decide
  have hstrict : build? ⟨text, false⟩ [] = some strict := by decide +kernel
  have hlax : build? ⟨text, true⟩ [] = some lax := by decide +kernel
  have hr : strict.find? line = some r := by decide +kernel
  exact ⟨hkeyword, hstrict, hlax, hr, find?_ignoring_case hkeyword hstrict hlax hr⟩

/-- Ignoring case, keywords that are the same up to case are found in the same way: in the same roles and with the same
fragments. -/
theorem find?_of_same_keyword {text text' : Text} {selection : List Role} {m m' : Matcher}
    (hsame : SameText true text text') (hm : build? ⟨text, true⟩ selection = some m)
    (hm' : build? ⟨text', true⟩ selection = some m') (line : Text) : m.find? line = m'.find? line := by
  obtain ⟨-, rfl⟩ := build?_eq_some_iff.1 hm
  obtain ⟨-, rfl⟩ := build?_eq_some_iff.1 hm'
  have htake : Keyword.take? ⟨text, true⟩ = Keyword.take? ⟨text', true⟩ :=
    Keyword.take?_congr fun _ => hsame.spells_iff
  simp only [find?_eq_findSome?, Role.match?_congr htake]

/-- `PS` may be typed with the long s. -/
theorem find?_of_same_keyword_long_s :
    let text : Text := ['P', 'S']
    let text' : Text := ['p', '\u017F']
    let m : Matcher := ⟨⟨text, true⟩, [.assignment, .otherUse]⟩
    let m' : Matcher := ⟨⟨text', true⟩, [.assignment, .otherUse]⟩
    let line : Text := ['x', ' ', '=', ' ', '[', 'p', 's', ']']
    SameText true text text' ∧ build? ⟨text, true⟩ [.otherUse, .assignment] = some m ∧
      build? ⟨text', true⟩ [.otherUse, .assignment] = some m' ∧
      m.find? line = some ⟨.otherUse, [['x', ' ', '=', ' ', '['], ['p', 's'], [']']], 1⟩ ∧
      m.find? line = m'.find? line := by
  intro text text' m m' line
  have hsame : SameText true text text' := by decide +kernel
  have hm : build? ⟨text, true⟩ [.otherUse, .assignment] = some m := by decide +kernel
  have hm' : build? ⟨text', true⟩ [.otherUse, .assignment] = some m' := by decide +kernel
  exact ⟨hsame, hm, hm', by decide +kernel, find?_of_same_keyword hsame hm hm' line⟩

end Matcher

end KeywordFinder
