import KeywordFinder.Proofs.Line.Forms

/-!
# The fragments of a match

A match splits its line and marks the keyword.

* (nothing is lost) the fragments of a match are the line (`flatten_fragments_of_match?`), none of them is empty,
  and the marked one is the keyword (`Matcher.find?_splits_line`);
* (whole tokens) the keyword is reported only where no word character stands next to it
  (`Matcher.find?_reports_whole_tokens`): each role has blanks, signs or boundary characters there, and none of
  them is a word character.
-/

namespace KeywordFinder

/-! ### Matches made of parts -/

namespace Match

/-- What stands before the keyword in the line of a match. -/
def before (m : Match) : Text := (m.fragments.take m.keywordIndex).flatten

/-- What stands after the keyword in the line of a match. -/
def after (m : Match) : Text := (m.fragments.drop (m.keywordIndex + 1)).flatten

variable {role : Role} {before after : List Text} {found : Text}

theorem flatten_fragments_ofParts :
    (ofParts role before found after).fragments.flatten = before.flatten ++ found ++ after.flatten := by
  simp [ofParts, List.flatten_filter_not_isEmpty]

theorem ne_nil_of_mem_ofParts {f : Text} (h : f ∈ (ofParts role before found after).fragments) : f ≠ [] := by
  have := (List.mem_filter.1 h).2
  rintro rfl
  cases this

private theorem fragments_ofParts (hf : found ≠ []) :
    (ofParts role before found after).fragments =
      before.filter (!·.isEmpty) ++ found :: after.filter (!·.isEmpty) := by
  have hne : (!found.isEmpty) = true := by simpa using hf
  rw [ofParts, List.filter_append, List.filter_cons, if_pos hne]

private theorem keywordIndex_ofParts (hf : found ≠ []) :
    (ofParts role before found after).keywordIndex = (before.filter (!·.isEmpty)).length := by
  simp [ofParts, hf]

theorem getElem?_ofParts (hf : found ≠ []) :
    (ofParts role before found after).fragments[(ofParts role before found after).keywordIndex]? =
      some found := by
  rw [fragments_ofParts hf, keywordIndex_ofParts hf, List.getElem?_append_right (Nat.le_refl _), Nat.sub_self,
    List.getElem?_cons_zero]

theorem before_ofParts (hf : found ≠ []) : (ofParts role before found after).before = before.flatten := by
  rw [Match.before, fragments_ofParts hf, keywordIndex_ofParts hf, List.take_left,
    List.flatten_filter_not_isEmpty]

theorem after_ofParts (hf : found ≠ []) : (ofParts role before found after).after = after.flatten := by
  rw [Match.after, fragments_ofParts hf, keywordIndex_ofParts hf, ← List.drop_drop, List.drop_left,
    List.drop_succ_cons, List.drop_zero, List.flatten_filter_not_isEmpty]

end Match

/-! ### Nothing is lost -/

/-- The fragments of a match are the line, also if the keyword is empty. -/
theorem flatten_fragments_of_match? {role : Role} {k : Keyword} {line : Text} {m : Match}
    (h : role.match? k line = some m) : m.fragments.flatten = line := by
  rcases Role.form_of_match? h with ⟨word, indent, gap, found, tail, hd, rfl⟩ | ⟨indent, found, gap, value, ha, rfl⟩ |
    ⟨before, found, tail, hu, rfl⟩
  · simp [Match.flatten_fragments_ofParts, hd.line_eq]
  · simp [Match.flatten_fragments_ofParts, ha.line_eq]
  · rw [hu.line_eq]
    cases tail <;> simp

/-- What the matcher finds is the match of an active role. -/
theorem Matcher.exists_of_find? {m : Matcher} {line : Text} {r : Match} (h : m.find? line = some r) :
    ∃ role ∈ m.roles, role.match? m.keyword line = some r := by
  rw [Matcher.find?] at h
  split at h
  · cases h
  · exact List.exists_of_findSome?_eq_some h

theorem Matcher.build?_eq_some_iff {k : Keyword} {selection : List Role} {m : Matcher} :
    Matcher.build? k selection = some m ↔ k.fits = true ∧ m = ⟨k, Role.ordered selection⟩ := by
  rw [Matcher.build?]
  split
  · next h => simp [h, eq_comm]
  · next h => simp [h]

/-! ### Blanks, boundaries and word characters -/

/-- Whether a text ends with a word character. -/
def endsInWord (s : Text) : Bool := s.getLast?.any isWordChar

/-- Whether a text starts with a word character. -/
def startsInWord (s : Text) : Bool := s.head?.any isWordChar

private theorem startsInWord_cons (c : Char) (s : Text) : startsInWord (c :: s) = isWordChar c := rfl

private theorem blankRanges_disjoint_wordRanges :
    ∀ b ∈ blankRanges, ∀ w ∈ wordRanges, b.2 < w.1 ∨ w.2 < b.1 := by
  decide +kernel

/-- No blank character is a word character. -/
theorem isWordChar_of_isBlank {c : Char} (h : isBlank c = true) : isWordChar c = false := by
  obtain ⟨b, hb, hb₁, hb₂⟩ := inRanges_iff.1 h
  rw [isWordChar, Bool.eq_false_iff, Ne, inRanges_iff]
  rintro ⟨w, hw, hw₁, hw₂⟩
  have := blankRanges_disjoint_wordRanges b hb w hw
  omega

private theorem isWordChar_of_sign {c : Char} (h : c ∈ ['(', '[', '.', ',', '=']) : isWordChar c = false := by
  have hall : (['(', '[', '.', ',', '='].all fun c => !isWordChar c) = true := by decide +kernel
  simpa using List.all_eq_true.1 hall c h

private theorem isWordChar_of_isUseBoundary {c : Char} (h : isUseBoundary c = true) : isWordChar c = false := by
  rw [isUseBoundary, Bool.or_eq_true] at h
  rcases h with h | h
  · exact isWordChar_of_isBlank h
  · exact isWordChar_of_sign (List.mem_append_left ['='] (List.contains_iff_mem.1 h))

theorem endsInWord_of_blank {s : Text} (h : ∀ c ∈ s, isBlank c = true) : endsInWord s = false := by
  rw [endsInWord]
  cases hl : s.getLast? with
  | none => rfl
  | some c => exact isWordChar_of_isBlank (h c (List.mem_of_getLast? hl))

/-- What follows blanks decides whether a text starts with a word character. -/
private theorem startsInWord_of_trimStart {s : Text} (h : startsInWord (trimStart s) = false) :
    startsInWord s = false := by
  cases s with
  | nil => rfl
  | cons c s =>
    cases hc : isBlank c with
    | true =>
      rw [startsInWord_cons]
      exact isWordChar_of_isBlank hc
    | false => rwa [trimStart, List.dropWhile_cons_of_neg (by simp [hc])] at h

private theorem not_endsInWord_append {s t : Text} (ht : t ≠ []) (h : endsInWord t = false) :
    endsInWord (s ++ t) = false := by
  rw [endsInWord, List.getLast?_eq_some_getLast ht] at h
  rw [endsInWord, List.getLast?_append, List.getLast?_eq_some_getLast ht]
  exact h

/-! ### Whole tokens -/

private theorem not_startsInWord_of_opens {tail : Text} (h : opensParameters tail = true) :
    startsInWord tail = false := by
  apply startsInWord_of_trimStart
  rw [opensParameters] at h
  split at h
  · next rest htrim =>
    rw [htrim, startsInWord_cons]
    exact isWordChar_of_sign (by simp)
  · cases h

private theorem not_startsInWord_of_endsUse {tail : Text} (h : endsUse tail = true) :
    startsInWord tail = false := by
  apply startsInWord_of_trimStart
  rw [endsUse] at h
  split at h
  · next htrim =>
    rw [htrim]
    rfl
  · next c rest htrim =>
    rw [htrim]
    simp only [Bool.and_eq_true, Bool.not_eq_true'] at h
    exact h.2

private theorem not_startsInWord_of_sign {gap value : Text} (h : ∀ c ∈ gap, isBlank c = true) :
    startsInWord (gap ++ '=' :: value) = false := by
  cases gap with
  | nil =>
    rw [List.nil_append, startsInWord_cons]
    exact isWordChar_of_sign (by simp)
  | cons c gap =>
    rw [List.cons_append, startsInWord_cons]
    exact isWordChar_of_isBlank (h c List.mem_cons_self)

/-- The parts of a line around the keyword: with it they are the line, and no word character stands next to it. -/
structure Frames (k : Keyword) (line : Text) (before : List Text) (found : Text) (after : List Text) : Prop where
  line_eq : line = before.flatten ++ found ++ after.flatten
  spells : k.Spells found
  not_endsInWord : endsInWord before.flatten = false
  not_startsInWord : startsInWord after.flatten = false

theorem Declares.frames {word : Text} {k : Keyword} {line indent gap found tail : Text}
    (h : Declares word k line indent gap found tail) : Frames k line [indent, word, gap] found [tail] := by
  refine ⟨by simp [h.line_eq], h.spells, ?_, ?_⟩
  · have hgap := not_endsInWord_append (s := indent ++ word) h.gap_ne_nil (endsInWord_of_blank h.blank_gap)
    simpa using hgap
  · simpa using not_startsInWord_of_opens h.opens

theorem Assigns.frames {k : Keyword} {line indent found gap value : Text}
    (h : Assigns k line indent found gap value) : Frames k line [indent] found [gap, ['='], value] := by
  refine ⟨by simp [h.line_eq], h.spells, ?_, ?_⟩
  · simpa using endsInWord_of_blank h.blank_indent
  · simpa using not_startsInWord_of_sign h.blank_gap

theorem Uses.frames {k : Keyword} {line before found tail : Text} (h : Uses k line before found tail) :
    Frames k line [before] found [tail] := by
  obtain ⟨c, hlast, hboundary⟩ := h.boundary
  refine ⟨by simp [h.line_eq], h.spells, ?_, ?_⟩
  · simp [endsInWord, hlast, isWordChar_of_isUseBoundary hboundary]
  · simpa using not_startsInWord_of_endsUse h.ends

/-- The match of a keyword that is not empty is made of the parts around it. -/
theorem exists_parts_of_match? {role : Role} {k : Keyword} {line : Text} {m : Match} (hk : k.text ≠ [])
    (h : role.match? k line = some m) :
    ∃ before found after, m = .ofParts role before found after ∧ Frames k line before found after := by
  rcases Role.form_of_match? h with ⟨word, indent, gap, found, tail, hd, rfl⟩ | ⟨indent, found, gap, value, ha, rfl⟩ |
    ⟨before, found, tail, hu, rfl⟩
  · exact ⟨_, _, _, rfl, hd.frames⟩
  · exact ⟨_, _, _, rfl, ha.frames⟩
  · refine ⟨[before], found, [tail], ?_, hu.frames⟩
    -- only an empty keyword would leave an empty fragment in the match
    have hfound : found ≠ [] := hu.spells.ne_nil hk
    have hbefore : before ≠ [] := by
      rintro rfl
      obtain ⟨c, hlast, -⟩ := hu.boundary
      cases hlast
    cases tail <;> simp [Match.ofParts, hbefore, hfound]

/-! ### What a matcher reports -/

namespace Matcher

variable {k : Keyword} {selection : List Role} {m : Matcher} {line : Text}

private theorem exists_parts_of_find? (hk : k.text ≠ []) (hm : build? k selection = some m) {r : Match}
    (hr : m.find? line = some r) :
    ∃ role before found after, r = .ofParts role before found after ∧ Frames k line before found after := by
  obtain ⟨-, rfl⟩ := build?_eq_some_iff.1 hm
  obtain ⟨role, -, hmatch⟩ := exists_of_find? hr
  exact ⟨role, exists_parts_of_match? hk hmatch⟩

/-- A match is a split of its line into fragments that are not empty, and the marked fragment is the keyword,
with as many characters. -/
theorem find?_splits_line (hk : k.text ≠ []) (hm : build? k selection = some m) {r : Match}
    (hr : m.find? line = some r) :
    r.fragments.flatten = line ∧ (∀ f ∈ r.fragments, f ≠ []) ∧
      ∃ h : r.keywordIndex < r.fragments.length,
        r.fragments[r.keywordIndex].length = k.text.length ∧ k.Spells r.fragments[r.keywordIndex] := by
  obtain ⟨role, before, found, after, rfl, hframes⟩ := exists_parts_of_find? hk hm hr
  refine ⟨?_, fun f hf => Match.ne_nil_of_mem_ofParts hf, ?_⟩
  · rw [Match.flatten_fragments_ofParts, hframes.line_eq]
  · obtain ⟨h, hget⟩ := List.getElem?_eq_some_iff.1 (Match.getElem?_ofParts (hframes.spells.ne_nil hk))
    refine ⟨h, ?_⟩
    rw [hget]
    exact ⟨hframes.spells.length_eq, hframes.spells⟩

/-- The Kelvin sign and the long s spell `ks`, in more bytes than it has. -/
theorem find?_splits_line_kelvin :
    let k : Keyword := ⟨['k', 's'], true⟩
    let m : Matcher := ⟨k, [.otherUse]⟩
    let line : Text := ['a', '.', '\u212A', '\u017F', ')']
    let r : Match := ⟨.otherUse, [['a', '.'], ['\u212A', '\u017F'], [')']], 1⟩
    k.text ≠ [] ∧ build? k [.otherUse] = some m ∧ m.find? line = some r ∧
      r.fragments.flatten = line ∧ (∀ f ∈ r.fragments, f ≠ []) ∧
      ∃ h : r.keywordIndex < r.fragments.length,
        r.fragments[r.keywordIndex].length = k.text.length ∧ k.Spells r.fragments[r.keywordIndex] := by
  intro k m line r
  have hk : k.text ≠ [] := by decide
  have hm : build? k [.otherUse] = some m := by decide
  have hr : m.find? line = some r := by decide +kernel
  exact ⟨hk, hm, hr, find?_splits_line hk hm hr⟩

/-- The keyword is reported only where no word character stands right before or after it.  A line in which every
occurrence of the keyword touches a word character is not reported. -/
theorem find?_reports_whole_tokens (hk : k.text ≠ []) (hm : build? k selection = some m) :
    (∀ r, m.find? line = some r →
      ∃ found, r.fragments[r.keywordIndex]? = some found ∧ line = r.before ++ found ++ r.after ∧
        endsInWord r.before = false ∧ startsInWord r.after = false) ∧
    ((∀ before found after, line = before ++ found ++ after → k.Spells found →
        endsInWord before = true ∨ startsInWord after = true) →
      m.find? line = none) := by
  constructor
  · intro r hr
    obtain ⟨role, before, found, after, rfl, hframes⟩ := exists_parts_of_find? hk hm hr
    have hne := hframes.spells.ne_nil hk
    refine ⟨found, Match.getElem?_ofParts hne, ?_⟩
    rw [Match.before_ofParts hne, Match.after_ofParts hne]
    exact ⟨hframes.line_eq, hframes.not_endsInWord, hframes.not_startsInWord⟩
  · intro h
    rw [Option.eq_none_iff_forall_ne_some]
    intro r hr
    obtain ⟨role, before, found, after, -, hframes⟩ := exists_parts_of_find? hk hm hr
    rcases h _ _ _ hframes.line_eq hframes.spells with hw | hw
    · rw [hframes.not_endsInWord] at hw
      cases hw
    · rw [hframes.not_startsInWord] at hw
      cases hw

/-- The first `foo` goes on with a combining mark, so the second is reported, and a line with the first alone is
not. -/
theorem find?_reports_whole_tokens_mark :
    let k : Keyword := ⟨['f', 'o', 'o'], false⟩
    let m : Matcher := ⟨k, [.classDecl, .otherUse]⟩
    let mark : Text := [' ', 'f', 'o', 'o', '\u0301', ',']
    let r : Match := ⟨.otherUse, [mark, ['f', 'o', 'o'], [']']], 1⟩
    k.text ≠ [] ∧ build? k [.otherUse, .classDecl] = some m ∧
      m.find? (mark ++ ['f', 'o', 'o', ']']) = some r ∧
      (∃ found, r.fragments[r.keywordIndex]? = some found ∧
        mark ++ ['f', 'o', 'o', ']'] = r.before ++ found ++ r.after ∧
        endsInWord r.before = false ∧ startsInWord r.after = false) ∧
      m.find? mark = none := by
  intro k m mark r
  have hk : k.text ≠ [] := by decide
  have hm : build? k [.otherUse, .classDecl] = some m := by decide
  have hr : m.find? (mark ++ ['f', 'o', 'o', ']']) = some r := by decide +kernel
  exact ⟨hk, hm, hr, (find?_reports_whole_tokens hk hm).1 r hr, by decide +kernel⟩

end Matcher

end KeywordFinder
