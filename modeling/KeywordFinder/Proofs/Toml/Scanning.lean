import KeywordFinder.Proofs.Toml.Spelling

/-!
# Reading gaps, strings and keys

Each reader, given a spelling and what comes after it, gives what is spelled and the rest.  Where a spelling could go on
in the rest, the first character of the rest must not belong to it.
-/

namespace KeywordFinder

namespace Toml

variable {c : Char} {s t rest gap b key : Text}

/-! ### Ends of lines -/

theorem ne_of_isPlain (hc : isPlain c = true) : c ≠ '\n' ∧ c ≠ '\r' := by
  constructor <;> (rintro rfl; exact absurd hc (by decide))

theorem ne_of_isSpace (hc : isSpace c = true) : c ≠ '\n' ∧ c ≠ '\r' ∧ c ≠ '#' := by
  refine ⟨?_, ?_, ?_⟩ <;> (rintro rfl; exact absurd hc (by decide))

private theorem endLine_spaces (hs : IsSpaces s) : endLine false (s ++ rest) = endLine false rest := by
  induction s with
  | nil => rfl
  | cons c s ih =>
    have hc : isSpace c = true := hs c List.mem_cons_self
    obtain ⟨hfeed, hreturn, -⟩ := ne_of_isSpace hc
    rw [List.cons_append, endLine, if_neg hfeed, if_neg hreturn, if_neg Bool.false_ne_true, if_pos hc]
    exact ih fun d hd => hs d (List.mem_cons_of_mem _ hd)

private theorem endLine_plain (hs : ∀ c ∈ s, isPlain c = true) : endLine true (s ++ rest) = endLine true rest := by
  induction s with
  | nil => rfl
  | cons c s ih =>
    rw [List.forall_mem_cons] at hs
    obtain ⟨hfeed, hreturn⟩ := ne_of_isPlain hs.1
    rw [List.cons_append, endLine, if_neg hfeed, if_neg hreturn, if_pos rfl, if_pos hs.1]
    exact ih hs.2

private theorem endLine_lineRest (hs : IsLineRest s) :
    ∃ inComment, endLine false (s ++ rest) = endLine inComment rest := by
  cases hs with
  | spaces hs => exact ⟨false, endLine_spaces hs⟩
  | comment hs hplain =>
    refine ⟨true, ?_⟩
    rw [List.append_assoc, endLine_spaces hs, List.cons_append, endLine, if_neg (by decide), if_neg (by decide),
      if_neg Bool.false_ne_true, if_neg (by decide), if_pos rfl, endLine_plain hplain]

theorem endLine_break (hs : IsLineRest s) (hb : IsBreak b) : endLine false (s ++ (b ++ rest)) = some rest := by
  obtain ⟨inComment, heq⟩ : ∃ inComment, _ = endLine inComment (b ++ rest) := endLine_lineRest hs
  rw [heq]
  cases hb with
  | feed => exact if_pos rfl
  | both =>
    rw [List.cons_append, endLine, if_neg (by decide), if_pos rfl, if_pos (by rfl)]
    rfl

theorem endLine_end (hs : IsLineRest s) : endLine false s = some [] := by
  obtain ⟨inComment, heq⟩ : ∃ inComment, _ = endLine inComment [] := endLine_lineRest hs
  rw [List.append_nil] at heq
  rw [heq, endLine]

/-! ### Gaps -/

theorem skipSpaces_append (hs : IsSpaces s) : skipSpaces (s ++ rest) = skipSpaces rest :=
  List.dropWhile_append_of_pos hs

theorem skipSpaces_cons (hc : isSpace c = false) : skipSpaces (c :: rest) = c :: rest :=
  List.dropWhile_cons_of_neg (by simp [hc])

private theorem skipGaps_spaces (hs : IsSpaces s) : skipGaps false (s ++ rest) = skipGaps false rest := by
  induction s with
  | nil => rfl
  | cons c s ih =>
    have hc : isSpace c = true := hs c List.mem_cons_self
    obtain ⟨hfeed, hreturn, -⟩ := ne_of_isSpace hc
    rw [List.cons_append, skipGaps, if_neg hfeed, if_neg hreturn, if_neg Bool.false_ne_true, if_pos hc]
    exact ih fun d hd => hs d (List.mem_cons_of_mem _ hd)

/-- Behind the end of a line a gap goes on. -/
private theorem skipGaps_of_endLine {inComment : Bool} (h : endLine inComment s = some rest) :
    skipGaps inComment s = skipGaps false rest := by
  fun_induction endLine inComment s with
  | case1 =>
    cases h
    rw [skipGaps, skipGaps]
  | case2 inComment s =>
    cases h
    exact if_pos rfl
  | case3 inComment s hbreaks hne =>
    obtain ⟨more, rfl⟩ : ∃ more, s = '\n' :: more := List.head?_eq_some_iff.1 (of_decide_eq_true hbreaks)
    cases h
    rw [skipGaps, if_neg hne, if_pos rfl, if_pos hbreaks]
    exact if_pos rfl
  | case5 c s hfeed hreturn hplain ih => rw [skipGaps, if_neg hfeed, if_neg hreturn, if_pos rfl, if_pos hplain, ih h]
  | case7 inComment c s hfeed hreturn hcomment hspace ih =>
    rw [skipGaps, if_neg hfeed, if_neg hreturn, if_neg hcomment, if_pos hspace, ih h]
  | case8 inComment s hcomment hfeed hreturn hspace ih =>
    rw [skipGaps, if_neg hfeed, if_neg hreturn, if_neg hcomment, if_neg hspace, if_pos rfl, ih h]
  | case4 | case6 | case9 => cases h

/-- Gaps are skipped. -/
theorem skipGaps_append (hgap : IsGap gap) : skipGaps false (gap ++ rest) = skipGaps false rest := by
  induction hgap with
  | spaces hs => exact skipGaps_spaces hs
  | line hs hb _ ih => rw [List.append_assoc, List.append_assoc, skipGaps_of_endLine (endLine_break hs hb), ih]

theorem skipGaps_lineRest (hs : IsLineRest s) : skipGaps false s = some [] := by
  rw [skipGaps_of_endLine (endLine_end hs), skipGaps]

/-- Whether a text starts with a character that belongs to no gap. -/
def StartsWord (s : Text) : Prop := ∃ c more, s = c :: more ∧ isSpace c = false ∧ c ∉ ['\n', '\r', '#']

theorem StartsWord.append (h : StartsWord s) : StartsWord (s ++ rest) := by
  obtain ⟨c, more, rfl, hc⟩ := h
  exact ⟨c, more ++ rest, rfl, hc⟩

theorem StartsWord.skipGaps (h : StartsWord s) : skipGaps false s = some s := by
  obtain ⟨c, more, rfl, hspace, hc⟩ := h
  simp only [List.mem_cons, List.not_mem_nil, or_false, not_or] at hc
  rw [Toml.skipGaps, if_neg hc.1, if_neg hc.2.1, if_neg Bool.false_ne_true, if_neg (by simp [hspace]), if_neg hc.2.2]

theorem StartsWord.skipSpaces (h : StartsWord s) : skipSpaces s = s := by
  obtain ⟨c, more, rfl, hspace, -⟩ := h
  exact skipSpaces_cons hspace

/-! ### Strings -/

theorem basicBody_length_append : basicBody s.length (s ++ rest) = basicBody 0 rest := by
  induction s with
  | nil => rfl
  | cons c s ih => rw [List.length_cons, List.cons_append, basicBody, ih]

private theorem codeEscape?_append {n : Nat} {digits : Text} (hlength : digits.length = n)
    (hcode : number? 16 digits = some c.toNat) : codeEscape? n (digits ++ rest) = some (c, n + 1) := by
  have hvalid : charOfCode? c.toNat = some c := (if_pos c.valid).trans (by rw [Char.ofNat_toNat])
  subst hlength
  rw [codeEscape?, charOfDigits?, if_pos (by simp), List.take_left, hcode, Option.bind_some, hvalid, Option.map_some]

/-- An escape is read as the character that it stands for. -/
private theorem escape?_append {body : Text} (hs : SpellsChar c ('\\' :: body)) (hbody : body ≠ []) :
    escape? (body ++ rest) = some (c, body.length) := by
  cases hs with
  | plain => exact absurd rfl hbody
  | short hname =>
    simp only [shortEscapes, List.mem_cons, Prod.mk.injEq, List.not_mem_nil, or_false] at hname
    rcases hname with ⟨rfl, rfl⟩ | ⟨rfl, rfl⟩ | ⟨rfl, rfl⟩ | ⟨rfl, rfl⟩ | ⟨rfl, rfl⟩ | ⟨rfl, rfl⟩ | ⟨rfl, rfl⟩ |
      ⟨rfl, rfl⟩ <;> rfl
  | code hmark hlength hcode =>
    simp only [codeEscapes, List.mem_cons, Prod.mk.injEq, List.not_mem_nil, or_false] at hmark
    rw [List.length_cons, hlength]
    rcases hmark with ⟨rfl, rfl⟩ | ⟨rfl, rfl⟩ | ⟨rfl, rfl⟩ <;> exact codeEscape?_append hlength hcode

private theorem basicBody_char (hs : SpellsChar c s) :
    basicBody 0 (s ++ rest) = (basicBody 0 rest).map fun r => (c :: r.1, r.2) := by
  -- the two kinds of escapes are read by one branch, which tells how many characters to leave out
  have hescape : ∀ body, s = '\\' :: body → body ≠ [] →
      basicBody 0 (s ++ rest) = (basicBody 0 rest).map fun r => (c :: r.1, r.2) := by
    rintro body rfl hbody
    rw [List.cons_append, basicBody, if_neg (by decide), if_pos rfl, escape?_append hs hbody, Option.bind_eq_bind,
      Option.bind_some]
    simp only [basicBody_length_append]
    cases basicBody 0 rest <;> rfl
  cases hs with
  | plain hplain hquote hslash =>
    rw [List.cons_append, List.nil_append, basicBody, if_neg hquote, if_neg hslash, if_pos hplain]
    cases basicBody 0 rest <;> rfl
  | short => exact hescape _ rfl (List.cons_ne_nil _ _)
  | code => exact hescape _ rfl (List.cons_ne_nil _ _)

theorem basicBody_append (hs : SpellsText t s) : basicBody 0 (s ++ '"' :: rest) = some (t, rest) := by
  induction hs with
  | nil => rfl
  | cons hc _ ih => rw [List.append_assoc, basicBody_char hc, ih, Option.map_some]

private theorem SpellsText.head?_ne_quote (hs : SpellsText t s) : s.head? ≠ some '"' := by
  cases hs with
  | nil => exact fun h => nomatch h
  | cons hc _ =>
    cases hc with
    | plain _ hquote _ => exact fun h => hquote (Option.some.inj h)
    | short => exact fun h => nomatch h
    | code => exact fun h => nomatch h

/-- A string is read as the text that it stands for.  Behind an empty string another quote would start a string over
several lines. -/
theorem string?_append (hs : SpellsString t s) (hrest : rest.head? ≠ some '"') :
    string? (s ++ rest) = some (t, rest) := by
  obtain ⟨hbody⟩ := hs
  rename_i body
  have hhead := hbody.head?_ne_quote
  rw [List.cons_append, List.append_assoc, List.singleton_append, string?]
  · exact basicBody_append hbody
  · intro more heq
    cases body with
    | nil =>
      rw [List.nil_append, List.cons.injEq] at heq
      exact hrest (by rw [heq.2]; rfl)
    | cons d body => exact hhead (by rw [(List.cons.inj heq).1]; rfl)

private theorem literalBody_append (hplain : ∀ c ∈ t, isPlain c = true) (hquote : '\'' ∉ t) :
    literalBody (t ++ '\'' :: rest) = some (t, rest) := by
  induction t with
  | nil => rfl
  | cons c t ih =>
    rw [List.forall_mem_cons] at hplain
    rw [List.mem_cons, not_or] at hquote
    rw [List.cons_append, literalBody, if_neg (Ne.symm hquote.1), if_pos hplain.1, ih hplain.2 hquote.2]
    rfl

/-! ### Keys -/

/-- Whether no key goes on at the front of a text. -/
def EndsKey (rest : Text) : Prop := ∀ c ∈ rest.head?, isKeyChar c = false

private theorem takeWhile_of_head? {p : Char → Bool} (hrest : ∀ c ∈ rest.head?, p c = false) :
    rest.takeWhile p = [] ∧ rest.dropWhile p = rest := by
  cases rest with
  | nil => exact ⟨rfl, rfl⟩
  | cons c rest =>
    have hc : p c = false := hrest c rfl
    exact ⟨List.takeWhile_cons_of_neg (by simp [hc]), List.dropWhile_cons_of_neg (by simp [hc])⟩

/-- The word at the front of a text. -/
theorem takeWhile_dropWhile_append {p : Char → Bool} (hs : ∀ c ∈ s, p c = true)
    (hrest : ∀ c ∈ rest.head?, p c = false) :
    (s ++ rest).takeWhile p = s ∧ (s ++ rest).dropWhile p = rest := by
  obtain ⟨htake, hdrop⟩ := takeWhile_of_head? hrest
  rw [List.takeWhile_append_of_pos hs, List.dropWhile_append_of_pos hs, htake, hdrop, List.append_nil]
  exact ⟨rfl, rfl⟩

theorem key?_append (hs : SpellsKey key s) (hrest : EndsKey rest) : key? (s ++ rest) = some (key, rest) := by
  cases hs with
  | basic hs =>
    obtain ⟨hbody⟩ := hs
    rw [List.cons_append, List.append_assoc, key?]
    exact basicBody_append hbody
  | literal hplain hquote =>
    rw [List.cons_append, List.append_assoc, key?]
    exact literalBody_append hplain hquote
  | bare hne hchars =>
    obtain ⟨htake, hdrop⟩ := takeWhile_dropWhile_append hchars hrest
    obtain ⟨c, more, rfl⟩ := List.exists_cons_of_ne_nil hne
    have hc : isKeyChar c = true := hchars c List.mem_cons_self
    rw [List.cons_append] at htake hdrop ⊢
    rw [key?]
    · simp only [htake, hdrop, List.isEmpty_cons, Bool.false_eq_true, if_false]
    all_goals
      rintro more heq
      rw [(List.cons.inj heq).1] at hc
      exact absurd hc (by decide)

private theorem isSpace_of_isKeyChar (hc : isKeyChar c = true) : isSpace c = false ∧ c ∉ ['\n', '\r', '#'] := by
  constructor
  · rw [isSpace, Bool.or_eq_false_iff]
    constructor <;> (refine decide_eq_false ?_; rintro rfl; exact absurd hc (by decide))
  · simp only [List.mem_cons, List.not_mem_nil, or_false, not_or]
    refine ⟨?_, ?_, ?_⟩ <;> (rintro rfl; exact absurd hc (by decide))

/-- The first character of a key. -/
theorem SpellsKey.exists_cons (hs : SpellsKey key s) :
    ∃ c more, s = c :: more ∧ (isKeyChar c = true ∨ c ∈ ['"', '\'']) := by
  cases hs with
  | basic hs =>
    obtain ⟨hbody⟩ := hs
    exact ⟨_, _, rfl, .inr (by decide)⟩
  | literal => exact ⟨_, _, rfl, .inr (by decide)⟩
  | bare hne hchars =>
    obtain ⟨c, more, rfl⟩ := List.exists_cons_of_ne_nil hne
    exact ⟨c, more, rfl, .inl (hchars c List.mem_cons_self)⟩

theorem SpellsKey.startsWord (hs : SpellsKey key s) : StartsWord s := by
  obtain ⟨c, more, rfl, hc | hc⟩ := hs.exists_cons
  · exact ⟨c, more, rfl, isSpace_of_isKeyChar hc⟩
  · simp only [List.mem_cons, List.not_mem_nil, or_false] at hc
    rcases hc with rfl | rfl <;> exact ⟨_, more, rfl, by decide, by decide⟩

private theorem endsKey_append {spaces more : Text} (hspaces : IsSpaces spaces) (hc : isKeyChar c = false) :
    EndsKey (spaces ++ c :: more) := by
  intro d hd
  cases spaces with
  | nil =>
    cases hd
    exact hc
  | cons e spaces =>
    cases hd
    have hd : isSpace d = true := hspaces d List.mem_cons_self
    cases hkey : isKeyChar d with
    | false => rfl
    | true => exact absurd hd (by simp [(isSpace_of_isKeyChar hkey).1])

/-- A key with blanks around it, in front of what neither goes on with the key nor adds another one to it. -/
theorem keyPath?_append {before behind more : Text} {n : Nat} (hs : SpellsKey key s) (hbefore : IsSpaces before)
    (hbehind : IsSpaces behind) (hc : isSpace c = false ∧ isKeyChar c = false ∧ c ≠ '.') :
    keyPath? (n + 1) (before ++ (s ++ (behind ++ c :: more))) = some ([], key, c :: more) := by
  rw [keyPath?, skipSpaces_append hbefore, hs.startsWord.append.skipSpaces,
    key?_append hs (endsKey_append hbehind hc.2.1)]
  simp only [Option.bind_eq_bind, Option.bind_some, skipSpaces_append hbehind, skipSpaces_cons hc.1]
  split
  · next heq => exact absurd (List.cons.inj heq).1 hc.2.2
  · rfl

/-- The first of dotted keys are those that are spelled first. -/
theorem prefix_of_keyPath? {before more last : Text} {keys path : List Text} {n : Nat} (hs : SpellsPath keys s)
    (hbefore : IsSpaces before) (hrest : EndsKey rest)
    (h : keyPath? n (before ++ (s ++ rest)) = some (path, last, more)) : keys <+: path ++ [last] := by
  induction hs generalizing n before path with
  | one hs =>
    cases n with
    | zero => cases h
    | succ n =>
      rw [keyPath?, skipSpaces_append hbefore, hs.startsWord.append.skipSpaces, key?_append hs hrest] at h
      simp only [Option.bind_eq_bind, Option.bind_some] at h
      split at h
      · obtain ⟨⟨path', last', more'⟩, -, heq⟩ := Option.bind_eq_some_iff.1 h
        cases heq
        exact ⟨_, rfl⟩
      · cases h
        exact List.prefix_rfl
  | cons hs hbefore' hbehind _ ih =>
    cases n with
    | zero => cases h
    | succ n =>
      simp only [List.append_assoc, List.cons_append] at h
      rw [keyPath?, skipSpaces_append hbefore, hs.startsWord.append.skipSpaces,
        key?_append hs (endsKey_append hbefore' (by decide))] at h
      simp only [Option.bind_eq_bind, Option.bind_some, skipSpaces_append hbefore',
        skipSpaces_cons (show isSpace '.' = false by rfl)] at h
      obtain ⟨⟨path', last', more'⟩, hpath, heq⟩ := Option.bind_eq_some_iff.1 h
      cases heq
      exact List.cons_prefix_cons.2 ⟨rfl, ih hbehind hpath⟩

end Toml

end KeywordFinder
