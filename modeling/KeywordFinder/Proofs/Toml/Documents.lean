import KeywordFinder.Proofs.Toml.Words

/-!
# Reading documents as they are spelled

A spelled document is read as the statements that it stands for (`parse?_of_spellsDocument`), and as many lines as are
spelled are read before anything behind them is looked at (`statements?_lines_append`).
-/

namespace KeywordFinder

namespace Toml

variable {c : Char} {s t rest gap lines more : Text} {v : Toml} {st : Statement} {sts : List Statement}

/-! ### What ends a word -/

private theorem EndsWord.append (hs : EndsWord s) (hrest : EndsWord rest) : EndsWord (s ++ rest) := by
  cases s with
  | nil => exact hrest
  | cons c s => exact hs

theorem IsSpaces.endsWord (hs : IsSpaces s) : EndsWord s := by
  intro c hc
  rw [isWordPart, hs c (List.mem_of_mem_head? hc)]
  rfl

theorem IsLineRest.endsWord (hs : IsLineRest s) : EndsWord s := by
  cases hs with
  | spaces hs => exact hs.endsWord
  | comment hs => exact hs.endsWord.append fun c hc => by cases hc; rfl

theorem IsBreak.endsWord (hs : IsBreak s) : EndsWord s := by
  cases hs <;> exact fun c hc => by cases hc; rfl

theorem IsGap.endsWord (hs : IsGap s) : EndsWord s := by
  induction hs with
  | spaces hs => exact hs.endsWord
  | line hs hb _ ih => exact hs.endsWord.append (hb.endsWord.append ih)

theorem startsWord_of_isWordPart (hc : isWordPart c = true) : StartsWord (c :: s) := by
  simp only [isWordPart, Bool.not_eq_true', Bool.or_eq_false_iff, List.contains_eq_mem, decide_eq_false_iff_not] at hc
  refine ⟨c, s, rfl, hc.1, fun hmem => hc.2 ?_⟩
  revert hmem
  simp only [List.mem_cons, List.not_mem_nil, or_false]
  rintro (rfl | rfl | rfl) <;> decide

/-! ### Values -/

private theorem string?_of_endsWord (hs : SpellsString t s) (hrest : EndsWord rest) :
    string? (s ++ rest) = some (t, rest) := by
  refine string?_append hs fun hquote => ?_
  exact absurd (hrest '"' hquote) (by decide)

private theorem scalar?_of_spellsString (hs : SpellsString t s) (hrest : EndsWord rest) :
    scalar? (s ++ rest) = some (.string t, rest) := by
  have hhead : (s ++ rest).head? = some '"' := by
    obtain ⟨hbody⟩ := hs
    rfl
  rw [scalar?, if_pos (.inl hhead), string?_of_endsWord hs hrest]
  rfl

/-- Without a bracket at its front a value is neither an array nor a table. -/
private theorem value?_eq_scalar? {depth : Nat} (hs : ∀ c ∈ s.head?, c ≠ '[' ∧ c ≠ '{') :
    value? depth s = scalar? s := by
  cases depth with
  | zero => rfl
  | succ depth =>
    rw [value?]
    · rintro more rfl
      exact (hs _ rfl).1 rfl
    · rintro more rfl
      exact (hs _ rfl).2 rfl

theorem value?_of_spellsString {depth : Nat} (hs : SpellsString t s) (hrest : EndsWord rest) :
    value? depth (s ++ rest) = some (.string t, rest) := by
  rw [value?_eq_scalar?, scalar?_of_spellsString hs hrest]
  obtain ⟨hbody⟩ := hs
  intro c hc
  cases hc
  decide

theorem value?_of_isWord {word : Text} {depth : Nat} (hw : IsWord word v) (hrest : EndsWord rest) :
    value? depth (word ++ rest) = some (v, rest) := by
  rw [value?_eq_scalar?, scalar?_of_isWord hw hrest]
  obtain ⟨c, more, rfl⟩ := List.exists_cons_of_ne_nil hw.ne_nil
  intro d hd
  cases hd
  have hpart : isWordPart c = true := hw.isWordPart c List.mem_cons_self
  constructor <;> (rintro rfl; exact absurd hpart (by decide))

private theorem SpellsString.startsWord (hs : SpellsString t s) : StartsWord s := by
  obtain ⟨hbody⟩ := hs
  exact ⟨_, _, rfl, by decide, by decide⟩

/-- One round of reading an array whose next item is a string. -/
private theorem items?_string {item : Text → Option (Toml × Text)} {fuel : Nat} (hgap : IsGap gap)
    (hs : SpellsString t s) (hitem : item (s ++ rest) = some (.string t, rest)) :
    items? item (fuel + 1) (gap ++ (s ++ rest)) = (skipGaps false rest).bind fun
      | ']' :: rest => some ([.string t], rest)
      | ',' :: rest => (items? item fuel rest).bind fun r => some (.string t :: r.1, r.2)
      | _ => none := by
  rw [items?, skipGaps_append hgap, hs.startsWord.append.skipGaps]
  obtain ⟨hbody⟩ := hs
  simp only [Option.bind_eq_bind, Option.bind_some]
  split
  · next heq => exact absurd (List.cons.inj heq).1 (by decide)
  · rw [hitem]
    rfl

private theorem IsGap.endsWord_append_cons (hgap : IsGap gap) (hc : isWordPart c = false) :
    EndsWord (gap ++ c :: rest) :=
  hgap.endsWord.append fun d hd => by
    cases hd
    exact hc

/-- An array of strings is read as its items, given a reader of strings. -/
theorem items?_append {item : Text → Option (Toml × Text)} {ts : List Text} {fuel : Nat}
    (hitem : ∀ {t s rest : Text}, SpellsString t s → EndsWord rest → item (s ++ rest) = some (.string t, rest))
    (hs : SpellsItems ts s) (hfuel : ts.length < fuel) :
    items? item fuel (s ++ ']' :: rest) = some (ts.map .string, rest) := by
  have hclose : ∀ rest : Text, StartsWord (']' :: rest) := fun rest => ⟨_, rest, rfl, by decide, by decide⟩
  have hcomma : ∀ rest : Text, StartsWord (',' :: rest) := fun rest => ⟨_, rest, rfl, by decide, by decide⟩
  induction hs generalizing fuel with
  | none hgap =>
    obtain ⟨fuel, rfl⟩ : ∃ k, fuel = k + 1 := ⟨fuel - 1, by omega⟩
    rw [items?, skipGaps_append hgap, (hclose rest).skipGaps]
    rfl
  | @last t gap s gap' hgap hs hgap' =>
    obtain ⟨fuel, rfl⟩ : ∃ k, fuel = k + 1 := ⟨fuel - 1, by omega⟩
    have hends : EndsWord (gap' ++ ']' :: rest) := hgap'.endsWord_append_cons (by decide)
    rw [List.append_assoc, List.append_assoc,
      items?_string hgap hs (hitem hs hends), skipGaps_append hgap', (hclose rest).skipGaps]
    rfl
  | @cons t gap s gap' more ts hgap hs hgap' _ ih =>
    obtain ⟨fuel, rfl⟩ : ∃ k, fuel = k + 1 := ⟨fuel - 1, by omega⟩
    have hends : EndsWord (gap' ++ ',' :: (more ++ ']' :: rest)) := hgap'.endsWord_append_cons (by decide)
    rw [List.length_cons, Nat.add_lt_add_iff_right] at hfuel
    rw [List.append_assoc, List.append_assoc, List.append_assoc, List.cons_append,
      items?_string hgap hs (hitem hs hends), skipGaps_append hgap', (hcomma _).skipGaps]
    simp only [ih hfuel, Option.bind_some, List.map_cons]

private theorem SpellsItems.length_le {ts : List Text} (hs : SpellsItems ts s) : ts.length ≤ s.length := by
  induction hs with
  | none => exact Nat.zero_le _
  | last _ hs =>
    obtain ⟨hbody⟩ := hs
    simp only [List.length_append, List.length_cons, List.length_nil]
    omega
  | cons _ _ _ _ ih =>
    simp only [List.length_append, List.length_cons]
    omega

/-- A value is read as what it stands for, where arrays may nest at all. -/
theorem value?_append {depth : Nat} (hs : SpellsValue v s) (hrest : EndsWord rest) :
    value? (depth + 1) (s ++ rest) = some (v, rest) := by
  cases hs with
  | string hs => exact value?_of_spellsString hs hrest
  | yes => exact value?_of_isWord (isWord_boolean true) hrest
  | no => exact value?_of_isWord (isWord_boolean false) hrest
  | natural hs => exact value?_of_isWord (isWord_of_natural hs) hrest
  | @strings ts s hs =>
    -- each round reads one item, and an item takes a character at least
    have hfuel : ts.length < (s ++ ']' :: rest).length + 1 := by
      have hle := hs.length_le
      rw [List.length_append]
      omega
    rw [List.cons_append, List.append_assoc, List.singleton_append, value?,
      items?_append value?_of_spellsString hs hfuel]
    rfl

private theorem SpellsValue.startsWord (hs : SpellsValue v s) : StartsWord s := by
  have hword : ∀ {word : Text} {v : Toml}, IsWord word v → StartsWord word := by
    intro word v hw
    obtain ⟨c, more, rfl⟩ := List.exists_cons_of_ne_nil hw.ne_nil
    exact startsWord_of_isWordPart (hw.isWordPart c List.mem_cons_self)
  cases hs with
  | string hs => exact hs.startsWord
  | yes => exact hword (isWord_boolean true)
  | no => exact hword (isWord_boolean false)
  | natural hs => exact hword (isWord_of_natural hs)
  | strings => exact ⟨_, _, rfl, by decide, by decide⟩

/-! ### Statements -/

private theorem StartsWord.ne_nil (hs : StartsWord s) : s ≠ [] := by
  obtain ⟨c, more, rfl, -⟩ := hs
  exact List.cons_ne_nil _ _

private theorem SpellsStatement.startsWord (hs : SpellsStatement st s) : StartsWord s := by
  cases hs with
  | header => exact ⟨_, _, rfl, by decide, by decide⟩
  | assignment hs => exact hs.startsWord.append

private theorem SpellsKey.ne_bracket {key : Text} (hs : SpellsKey key s) : s ++ rest ≠ '[' :: more := by
  obtain ⟨c, more, rfl, hc⟩ := hs.exists_cons
  rintro heq
  rw [(List.cons.inj heq).1] at hc
  exact absurd hc (by decide)

private theorem SpellsKey.ne_bracket_of_spaces {key before : Text} (hs : SpellsKey key s) (hbefore : IsSpaces before) :
    before ++ (s ++ rest) ≠ '[' :: more := by
  cases before with
  | nil => exact hs.ne_bracket
  | cons c before =>
    intro heq
    have hc : isSpace c = true := hbefore c List.mem_cons_self
    rw [(List.cons.inj heq).1] at hc
    exact absurd hc (by decide)

/-- A statement is read as what it stands for, and its line has to end behind it. -/
theorem statement?_append (hs : SpellsStatement st s) (hrest : EndsWord rest) :
    statement? (s ++ rest) = (endLine false rest).map (st, ·) := by
  cases hs with
  | @header key before s behind hbefore hs hbehind =>
    have hread : keyPath? maxDepth (before ++ (s ++ (behind ++ ']' :: rest))) = some ([], key, ']' :: rest) :=
      keyPath?_append hs hbefore hbehind (by decide)
    simp only [List.cons_append, List.append_assoc, List.nil_append]
    rw [statement?, hread]
    · simp only [Option.bind_eq_bind, Option.bind_some, after?, if_true]
      cases endLine false rest <;> rfl
    · exact fun more heq => hs.ne_bracket_of_spaces hbefore heq
  | @assignment key s before behind value v hs hbefore hbehind hvalue =>
    have hread : keyPath? maxDepth (s ++ (before ++ '=' :: (behind ++ (value ++ rest)))) =
        some ([], key, '=' :: (behind ++ (value ++ rest))) :=
      keyPath?_append hs isSpaces_nil hbefore (by decide)
    simp only [List.cons_append, List.append_assoc]
    rw [statement?, keyValue?, hread]
    · simp only [Option.bind_eq_bind, Option.bind_some, skipSpaces_cons (show isSpace '=' = false by rfl), after?,
        if_true, skipSpaces_append hbehind, hvalue.startsWord.append.skipSpaces, maxDepth,
        value?_append hvalue hrest, Option.pure_def]
      cases endLine false rest <;> rfl
    all_goals
      intro more heq
      exact hs.ne_bracket heq

/-! ### Lines -/

/-- One round of reading a document. -/
private theorem statements?_statement {fuel : Nat} (hgap : IsGap gap) (hs : SpellsStatement st s)
    (hrest : EndsWord rest) (hend : endLine false rest = some more) :
    statements? (fuel + 1) (gap ++ (s ++ rest)) = (statements? fuel more).map (st :: ·) := by
  rw [statements?, skipGaps_append hgap, hs.startsWord.append.skipGaps]
  simp only [Option.bind_eq_bind, Option.bind_some]
  split
  · next heq => exact absurd (List.append_eq_nil_iff.1 heq).1 hs.startsWord.ne_nil
  · rw [statement?_append hs hrest, hend]
    cases hmore : statements? fuel more <;> simp [hmore]

/-- Whole lines are read before what stands behind them. -/
theorem statements?_lines_append {fuel : Nat} (hs : SpellsLines sts lines) :
    statements? (sts.length + fuel) (lines ++ rest) = (statements? fuel rest).map (sts ++ ·) := by
  induction hs with
  | nil => simp
  | @cons st sts gap s behind b more hgap hs hbehind hb _ ih =>
    have hends : EndsWord (behind ++ (b ++ (more ++ rest))) := by
      refine hbehind.endsWord.append ?_
      cases hb <;> exact fun c hc => by cases hc; rfl
    have hlength : (st :: sts).length + fuel = sts.length + fuel + 1 := by
      rw [List.length_cons]
      omega
    simp only [List.append_assoc]
    rw [hlength, statements?_statement hgap hs hends (endLine_break hbehind hb), ih]
    cases statements? fuel rest <;> rfl

private theorem SpellsLines.length_le (hs : SpellsLines sts lines) : sts.length ≤ lines.length := by
  induction hs with
  | nil => exact Nat.zero_le _
  | cons _ hs _ _ _ ih =>
    have hpos := List.length_pos_iff.2 hs.startsWord.ne_nil
    simp only [List.length_append, List.length_cons]
    omega

theorem SpellsLines.exists_spellsStatement (hs : SpellsLines sts lines) : ∀ st ∈ sts, ∃ s, SpellsStatement st s := by
  induction hs with
  | nil => exact fun _ h => absurd h List.not_mem_nil
  | cons _ hs _ _ _ ih => exact List.forall_mem_cons.2 ⟨⟨_, hs⟩, ih⟩

/-! ### Documents -/

/-- Whether a text does not start with the mark that may stand in front of documents. -/
def Unmarked (s : Text) : Prop := s.head? ≠ some '\uFEFF'

private theorem Unmarked.append (hs : Unmarked s) (hrest : Unmarked rest) : Unmarked (s ++ rest) := by
  cases s with
  | nil => exact hrest
  | cons c s => exact hs

private theorem EndsWord.unmarked (hs : EndsWord s) : Unmarked s := fun hmark =>
  absurd (hs _ hmark) (by decide)

theorem IsGap.unmarked_append (hgap : IsGap gap) (hrest : Unmarked rest) : Unmarked (gap ++ rest) :=
  hgap.endsWord.unmarked.append hrest

private theorem SpellsKey.unmarked_append {key : Text} (hs : SpellsKey key s) : Unmarked (s ++ rest) := by
  obtain ⟨c, more, rfl, hc⟩ := hs.exists_cons
  rintro heq
  rw [Option.some.inj heq] at hc
  exact absurd hc (by decide)

private theorem SpellsPath.exists_key {keys : List Text} (hs : SpellsPath keys s) :
    ∃ key s' rest, SpellsKey key s' ∧ s = s' ++ rest := by
  cases hs with
  | one hs => exact ⟨_, _, [], hs, (List.append_nil _).symm⟩
  | cons hs => exact ⟨_, _, _, hs, rfl⟩

theorem SpellsPath.unmarked_append {keys : List Text} (hs : SpellsPath keys s) : Unmarked (s ++ rest) := by
  obtain ⟨key, s', rest', hkey, rfl⟩ := hs.exists_key
  rw [List.append_assoc]
  exact hkey.unmarked_append

private theorem SpellsStatement.unmarked_append (hs : SpellsStatement st s) : Unmarked (s ++ rest) := by
  cases hs with
  | header => exact fun heq => absurd (Option.some.inj heq) (by decide)
  | assignment hs =>
    rw [List.append_assoc]
    exact hs.unmarked_append

private theorem SpellsLines.unmarked_append (hs : SpellsLines sts lines) (hrest : Unmarked rest) :
    Unmarked (lines ++ rest) := by
  cases hs with
  | nil => exact hrest
  | cons hgap hs =>
    rw [List.append_assoc, List.append_assoc]
    exact hgap.unmarked_append hs.unmarked_append

private theorem dropMark_of_unmarked (hs : Unmarked s) : dropMark s = s := by
  cases s with
  | nil => rfl
  | cons c s =>
    refine if_neg fun hc => hs ?_
    rw [List.head?_cons, Option.some.injEq]
    exact Char.toNat_inj.1 hc

/-- A document is read line by line as far as its lines are spelled, and with enough fuel for what is left. -/
theorem parse?_lines_append (hs : SpellsLines sts lines) (hrest : Unmarked rest) :
    ∃ fuel, rest.length < fuel ∧
      parse? (lines ++ rest) = (statements? fuel rest).bind fun more => build? [] [] (sts ++ more) := by
  -- a statement takes a character at least, so what the lines leave of the fuel is enough for the rest
  have hle := hs.length_le
  refine ⟨lines.length - sts.length + rest.length + 1, by omega, ?_⟩
  have hfuel : (lines ++ rest).length + 1 = sts.length + (lines.length - sts.length + rest.length + 1) := by
    rw [List.length_append]
    omega
  simp only [parse?, dropMark_of_unmarked (hs.unmarked_append hrest), hfuel, statements?_lines_append hs,
    Option.bind_eq_bind, Option.bind_map]
  rfl

/-- A document says the statements that it spells. -/
theorem parse?_of_spellsDocument {document : Text} (hs : SpellsDocument sts document) :
    parse? document = build? [] [] sts := by
  cases hs with
  | closed hlines hgap hrest =>
    obtain ⟨fuel, hfuel, heq⟩ := parse?_lines_append hlines (hgap.unmarked_append hrest.endsWord.unmarked)
    obtain ⟨fuel, rfl⟩ : ∃ k, fuel = k + 1 := ⟨fuel - 1, by omega⟩
    rw [heq, statements?, skipGaps_append hgap, skipGaps_lineRest hrest]
    simp
  | unclosed hlines hgap hs hrest =>
    obtain ⟨fuel, hfuel, heq⟩ := parse?_lines_append hlines (hgap.unmarked_append hs.unmarked_append)
    have hpos := List.length_pos_iff.2 hs.startsWord.ne_nil
    simp only [List.length_append] at hfuel
    obtain ⟨fuel, rfl⟩ : ∃ k, fuel = k + 2 := ⟨fuel - 2, by omega⟩
    rw [heq, statements?_statement hgap hs hrest.endsWord (endLine_end hrest)]
    rfl

/-! ### Statements that start with a key -/

/-- The keys of a statement from the top of the document on, where assignments belong to the table at a path. -/
def Statement.namesFrom (here : List Text) : Statement → List Text
  | .header path key => path ++ [key]
  | .arrayHeader path key => path ++ [key]
  | .assignment path key _ => here ++ (path ++ [key])

private theorem exists_cons_of_statements? {fuel : Nat} (hgap : IsGap gap) (hs : StartsWord s)
    (h : statements? fuel (gap ++ s) = some sts) :
    ∃ st more rest, statement? s = some (st, rest) ∧ sts = st :: more := by
  cases fuel with
  | zero => cases h
  | succ fuel =>
    rw [statements?, skipGaps_append hgap, hs.skipGaps] at h
    simp only [Option.bind_eq_bind, Option.bind_some] at h
    split at h
    · exact absurd rfl hs.ne_nil
    · obtain ⟨⟨st, rest⟩, hst, h⟩ := Option.bind_eq_some_iff.1 h
      obtain ⟨more, -, heq⟩ := Option.bind_eq_some_iff.1 h
      cases heq
      exact ⟨st, more, rest, hst, rfl⟩

private theorem keyPath?_of_keyValue? {gapReader : Text → Option Text} {value : Text → Option (Toml × Text)}
    {path : List Text} {last : Text} (h : keyValue? gapReader value s = some ((path, last, v), rest)) :
    ∃ after, keyPath? maxDepth s = some (path, last, after) := by
  obtain ⟨⟨path', last', after⟩, hpath, h⟩ := Option.bind_eq_some_iff.1 h
  simp only [Option.bind_eq_bind, Option.bind_eq_some_iff] at h
  obtain ⟨_, -, _, -, _, -, _, -, heq⟩ := h
  cases heq
  exact ⟨after, hpath⟩

/-- What starts with keys assigns to them, or to keys below them. -/
theorem exists_assignment_of_statements? {keys : List Text} {fuel : Nat} (hgap : IsGap gap) (hs : SpellsPath keys s)
    (hrest : EndsKey rest) (h : statements? fuel (gap ++ (s ++ rest)) = some sts) :
    ∃ st more, sts = st :: more ∧ ∀ here, here ++ keys <+: st.namesFrom here := by
  obtain ⟨key, s', rest', hkey, heq⟩ := hs.exists_key
  have hstarts : StartsWord s := heq ▸ hkey.startsWord.append
  obtain ⟨st, more, rest'', hst, rfl⟩ := exists_cons_of_statements? hgap hstarts.append h
  rw [statement?] at hst
  · obtain ⟨⟨⟨path, last, v⟩, after⟩, hread, hst⟩ := Option.bind_eq_some_iff.1 hst
    obtain ⟨after', -, heq⟩ := Option.bind_eq_some_iff.1 hst
    cases heq
    obtain ⟨after, hpath⟩ := keyPath?_of_keyValue? hread
    exact ⟨_, more, rfl, fun here =>
      (List.prefix_append_right_inj here).2 (prefix_of_keyPath? hs isSpaces_nil hrest hpath)⟩
  all_goals
    intro more hbracket
    rw [heq, List.append_assoc] at hbracket
    exact hkey.ne_bracket hbracket

/-- What starts with one or two brackets and keys is a header of the keys, or of keys below them. -/
theorem exists_header_of_statements? {before bracket : Text} {keys : List Text} {fuel : Nat} (hgap : IsGap gap)
    (hbracket : bracket ∈ [['['], ['[', '[']]) (hbefore : IsSpaces before) (hs : SpellsPath keys s)
    (hrest : EndsKey rest) (h : statements? fuel (gap ++ (bracket ++ (before ++ (s ++ rest)))) = some sts) :
    ∃ st more, sts = st :: more ∧ ∀ here, keys <+: st.namesFrom here := by
  have hstarts : StartsWord bracket := by
    simp only [List.mem_cons, List.not_mem_nil, or_false] at hbracket
    rcases hbracket with rfl | rfl <;> exact ⟨_, _, rfl, by decide, by decide⟩
  obtain ⟨st, more, rest', hst, rfl⟩ := exists_cons_of_statements? hgap hstarts.append h
  simp only [List.mem_cons, List.not_mem_nil, or_false] at hbracket
  rcases hbracket with rfl | rfl
  · rw [List.singleton_append, statement?] at hst
    · obtain ⟨⟨path, last, after⟩, hpath, hst⟩ := Option.bind_eq_some_iff.1 hst
      simp only [Option.bind_eq_bind, Option.bind_eq_some_iff] at hst
      obtain ⟨_, -, _, -, heq⟩ := hst
      cases heq
      exact ⟨_, more, rfl, fun _ => prefix_of_keyPath? hs hbefore hrest hpath⟩
    · intro more heq
      obtain ⟨key, s', rest'', hkey, rfl⟩ := hs.exists_key
      rw [List.append_assoc] at heq
      exact hkey.ne_bracket_of_spaces hbefore heq
  · rw [List.cons_append, List.singleton_append, statement?] at hst
    obtain ⟨⟨path, last, after⟩, hpath, hst⟩ := Option.bind_eq_some_iff.1 hst
    simp only [Option.bind_eq_bind, Option.bind_eq_some_iff] at hst
    obtain ⟨_, -, _, -, _, -, heq⟩ := hst
    cases heq
    exact ⟨_, more, rfl, fun _ => prefix_of_keyPath? hs hbefore hrest hpath⟩

end Toml

end KeywordFinder
