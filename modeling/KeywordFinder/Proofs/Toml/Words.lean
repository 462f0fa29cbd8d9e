import KeywordFinder.Proofs.Toml.Scanning

/-!
# Reading truth values and natural numbers

Without a quote a value is one word, and what it stands for is decided by the whole word.  A natural number is no number
with a fraction, and as it has neither a hyphen nor a colon it is no date and no time (`ofWord?_of_natural`).
-/

namespace KeywordFinder

namespace Toml

variable {c : Char} {base n : Nat} {s digits rest word : Text} {v : Toml}

/-! ### Digits -/

/-- A character has a value as a digit, which is the same in every base, and below ten only for decimal digits. -/
private theorem exists_digitValue (c : Char) :
    ∃ v, (∀ base, isDigitIn base c = true ↔ v < base) ∧ (v < 10 → c.isDigit = true) := by
  have hle : ∀ {least most : Char}, least ≤ c ∧ c ≤ most → least.toNat ≤ c.toNat := fun h =>
    UInt32.le_iff_toNat_le.1 h.1
  simp only [isDigitIn, digit?, Option.isSome_ite]
  refine ⟨_, fun base => Iff.rfl, fun hv => ?_⟩
  split at hv
  · assumption
  · split at hv
    · next h =>
      have hletter : 0x61 ≤ c.toNat := hle h
      omega
    · split at hv
      · next h =>
        have hletter : 0x41 ≤ c.toNat := hle h
        omega
      · omega

private theorem isDigitIn_mono {base' : Nat} (hbase : base ≤ base') (hc : isDigitIn base c = true) :
    isDigitIn base' c = true := by
  obtain ⟨v, hv, -⟩ := exists_digitValue c
  exact (hv base').2 (Nat.lt_of_lt_of_le ((hv base).1 hc) hbase)

private theorem isDigit_of_isDigitIn (hc : isDigitIn 10 c = true) : c.isDigit = true := by
  obtain ⟨v, hv, hdigit⟩ := exists_digitValue c
  exact hdigit ((hv 10).1 hc)

/-- What is no digit in any base. -/
private theorem ne_of_isDigitIn {d : Char} (hc : isDigitIn 16 c = true) (hd : isDigitIn 16 d = false) : c ≠ d := by
  rintro rfl
  exact absurd hc (by simp [hd])

private theorem isWordPart_of_isDigitIn (hc : isDigitIn 16 c = true) : isWordPart c = true := by
  have hdigit : ∀ d ∈ [' ', '\t', '\n', '\r', '=', ',', '[', ']', '{', '}', '#'], (!isDigitIn 16 d) = true :=
    List.all_eq_true.1 rfl
  have hne : ∀ d ∈ [' ', '\t', '\n', '\r', '=', ',', '[', ']', '{', '}', '#'], c ≠ d := fun d hd =>
    ne_of_isDigitIn hc (Bool.not_eq_true' _ ▸ hdigit d hd)
  simp only [List.forall_mem_cons] at hne
  simp [isWordPart, isSpace, hne]

namespace GroupsDigits

theorem head?_isDigitIn (hs : GroupsDigits base digits s) : ∃ d more, s = d :: more ∧ isDigitIn base d = true := by
  cases hs with
  | one hd => exact ⟨_, _, rfl, hd⟩
  | digit hd _ => exact ⟨_, _, rfl, hd⟩
  | group hd _ => exact ⟨_, _, rfl, hd⟩

theorem isDigitIn_or_of_mem (hs : GroupsDigits base digits s) (hc : c ∈ s) : isDigitIn base c = true ∨ c = '_' := by
  induction hs with
  | one hd =>
    rw [List.mem_singleton.1 hc]
    exact .inl hd
  | digit hd _ ih =>
    rcases List.mem_cons.1 hc with rfl | hc
    · exact .inl hd
    · exact ih hc
  | group hd _ ih =>
    rcases List.mem_cons.1 hc with rfl | hc
    · exact .inl hd
    · rcases List.mem_cons.1 hc with rfl | hc
      · exact .inr rfl
      · exact ih hc

/-- Without the underscores the digits are left, also when letters would count as digits. -/
theorem ungroup? {base' : Nat} (hs : GroupsDigits base digits s) (hle : base ≤ base') (hbase : base' ≤ 16) :
    ungroup? base' s = some digits := by
  have hne : ∀ {d : Char}, isDigitIn base d = true → d ≠ '_' := fun hd =>
    ne_of_isDigitIn (isDigitIn_mono (Nat.le_trans hle hbase) hd) (by decide)
  induction hs with
  | one hd =>
    rw [Toml.ungroup?]
    exact fun heq => hne hd heq
  | digit hd hs ih =>
    obtain ⟨d', more, rfl, hd'⟩ := hs.head?_isDigitIn
    rw [Toml.ungroup?, ih, Option.map_some]
    · exact fun heq => hne hd heq
    · exact fun heq => nomatch heq
    · exact fun _ heq => hne hd' (List.cons.inj heq).1
  | group hd hs ih =>
    obtain ⟨d', more, rfl, hd'⟩ := hs.head?_isDigitIn
    rw [Toml.ungroup?, ih, if_pos, Option.map_some]
    · rw [isDigitIn_mono hle hd, List.head?_cons, Option.any_some, isDigitIn_mono hle hd']
      rfl
    · exact fun heq => hne hd heq

end GroupsDigits

/-! ### What a natural number is not -/

/-- The mark that is read after a field belongs to the text. -/
private theorem mem_of_after? {k least most : Nat} {field : Nat × Text} (hfield : field? k least most s = some field)
    (hafter : after? c field.2 = some rest) : c ∈ s := by
  have hdrop : field.2 = s.drop k := by
    obtain ⟨_, -, h⟩ := Option.bind_eq_some_iff.1 hfield
    obtain ⟨n, -, h⟩ := Option.bind_eq_some_iff.1 h
    obtain ⟨_, -, heq⟩ := Option.bind_eq_some_iff.1 h
    cases heq
    rfl
  rw [hdrop] at hafter
  cases hs : s.drop k with
  | nil =>
    rw [hs] at hafter
    cases hafter
  | cons d more =>
    rw [hs, after?] at hafter
    split at hafter
    · next hd =>
      have hmem : d ∈ s.drop k := by
        rw [hs]
        exact List.mem_cons_self
      exact hd ▸ List.mem_of_mem_drop hmem
    · cases hafter

/-- There is a hyphen in a date. -/
theorem date?_eq_none (h : '-' ∉ s) : date? s = none := by
  cases hdate : date? s with
  | none => rfl
  | some rest =>
    rw [date?] at hdate
    simp only [Option.bind_eq_bind, Option.bind_eq_some_iff] at hdate
    obtain ⟨year, hyear, more, hafter, -⟩ := hdate
    exact absurd (mem_of_after? hyear hafter) h

/-- There is a colon in a time. -/
private theorem time?_eq_none (h : ':' ∉ s) : time? s = none := by
  cases htime : time? s with
  | none => rfl
  | some rest =>
    rw [time?] at htime
    simp only [Option.bind_eq_bind, Option.bind_eq_some_iff] at htime
    obtain ⟨hour, hhour, more, hafter, -⟩ := htime
    exact absurd (mem_of_after? hhour hafter) h

private theorem isDateTime_eq_false (hhyphen : '-' ∉ s) (hcolon : ':' ∉ s) : isDateTime s = false := by
  rw [isDateTime, date?_eq_none hhyphen]
  simp only [time?_eq_none hcolon]
  rfl

/-- A number is none with a fraction if its digits end with it or go on with what marks no fraction. -/
private theorem isFloat_eq_false {whole : Text} {sign : Int} (hsplit : splitSign word = (sign, whole ++ rest))
    (hhead : ∃ d more, whole = d :: more ∧ isDigitIn 10 d = true) (hwhole : ∀ c ∈ whole, c.isDigit || c = '_')
    (hrest : rest = [] ∨ ∃ mark more, rest = mark :: more ∧ mark ∈ ['x', 'o', 'b']) : isFloat word = false := by
  have hends : ∀ c ∈ rest.head?, (c.isDigit || decide (c = '_')) = false := by
    rintro c hc
    rcases hrest with rfl | ⟨mark, more, rfl, hmark⟩
    · cases hc
    · cases hc
      simp only [List.mem_cons, List.not_mem_nil, or_false] at hmark
      rcases hmark with rfl | rfl | rfl <;> rfl
  have hfraction : isFractionOrExponent rest = false := by
    rcases hrest with rfl | ⟨mark, more, rfl, hmark⟩
    · rfl
    · simp only [List.mem_cons, List.not_mem_nil, or_false] at hmark
      rcases hmark with rfl | rfl | rfl <;> rfl
  obtain ⟨d, more, rfl, hd⟩ := hhead
  have hname : ∀ name : Text, (∃ e, name.head? = some e ∧ isDigitIn 10 e = false) → (d :: more) ++ rest ≠ name := by
    rintro name ⟨e, he, hdigit⟩ rfl
    cases he
    exact absurd hd (by simp [hdigit])
  simp only [isFloat, hsplit, (takeWhile_dropWhile_append hwhole hends).1, List.drop_left, hfraction, Bool.and_false,
    Bool.or_false, Bool.or_eq_false_iff, decide_eq_false_iff_not]
  exact ⟨hname _ ⟨'i', rfl, by decide⟩, hname _ ⟨'n', rfl, by decide⟩⟩

/-! ### Numbers -/

private theorem isGrouped_of_groupsDigits (hs : GroupsDigits base digits s) (hbase : base ≤ 16) :
    isGrouped base s = true := by
  rw [isGrouped, hs.ungroup? (Nat.le_refl base) hbase, Option.isSome_some, Bool.and_true, List.all_eq_true]
  intro c hc
  rcases hs.isDigitIn_or_of_mem hc with hd | rfl
  · rw [hd, Bool.true_or]
  · rw [decide_eq_true rfl, Bool.or_true]

private theorem isWrittenDecimal_of_groupsDigits (hs : GroupsDigits 10 digits s) (hzero : hasLeadingZero s = false) :
    isWrittenDecimal s = true := by
  have hrest : ∀ c ∈ s.dropWhile Char.isDigit, isDigitIn 10 c = true ∨ c = '_' := fun c hc =>
    hs.isDigitIn_or_of_mem ((List.dropWhile_sublist _).subset hc)
  have hends : (s.dropWhile Char.isDigit).isEmpty || (s.dropWhile Char.isDigit).head? = some '_' := by
    cases hdrop : s.dropWhile Char.isDigit with
    | nil => rfl
    | cons c more =>
      have hc : ¬ c.isDigit = true := by
        have hhead := List.head_dropWhile_not Char.isDigit (l := s) (by simp [hdrop])
        simpa [hdrop] using hhead
      rw [hdrop] at hrest
      rcases hrest c List.mem_cons_self with hd | rfl
      · exact absurd (isDigit_of_isDigitIn hd) hc
      · rfl
  have hmarks : (s.dropWhile Char.isDigit).any (fun c => c = '.' || c = 'e' || c = 'E') = false := by
    rw [List.any_eq_false]
    intro c hc
    rcases hrest c hc with hd | rfl
    · simp only [Bool.or_eq_true, decide_eq_true_eq]
      rintro ((rfl | rfl) | rfl) <;> exact absurd hd (by decide)
    · decide
  obtain ⟨d, more, rfl, hd⟩ := hs.head?_isDigitIn
  rw [isWrittenDecimal]
  simp only [hzero, hmarks, hends, List.head?_cons, Option.any_some, isDigit_of_isDigitIn hd, Bool.not_false,
    Bool.and_true]

private theorem integerOf_natural {digits : Text} (hn : number? base digits = some n) :
    integerOf word 1 base digits = .integer n := by
  rw [integerOf, hn]
  simp

/-- The characters of natural numbers. -/
private theorem SpellsNatural.mem (hs : SpellsNatural n s) (hc : c ∈ s) :
    isDigitIn 16 c = true ∨ c ∈ ['_', '+', 'x', 'o'] := by
  have hgroups : ∀ {base : Nat} {digits t : Text}, base ≤ 16 → GroupsDigits base digits t → c ∈ t →
      isDigitIn 16 c = true ∨ c ∈ ['_', '+', 'x', 'o'] := by
    intro base digits t hbase ht hc
    rcases ht.isDigitIn_or_of_mem hc with hd | rfl
    · exact .inl (isDigitIn_mono hbase hd)
    · exact .inr (by decide)
  cases hs with
  | decimal hsign hs =>
    rcases List.mem_append.1 hc with hc | hc
    · simp only [List.mem_cons, List.not_mem_nil, or_false] at hsign
      rcases hsign with rfl | rfl
      · cases hc
      · rw [List.mem_singleton.1 hc]
        exact .inr (by decide)
    · exact hgroups (by decide) hs hc
  | inBase hmark hs =>
    simp only [baseMarks, List.mem_cons, Prod.mk.injEq, List.not_mem_nil, or_false] at hmark
    rcases List.mem_cons.1 hc with rfl | hc
    · exact .inl (by decide)
    rcases List.mem_cons.1 hc with rfl | hc
    · rcases hmark with ⟨rfl, -⟩ | ⟨rfl, -⟩ | ⟨rfl, -⟩ <;> decide
    · exact hgroups (by omega) hs hc

private theorem SpellsNatural.not_mem {d : Char} (hs : SpellsNatural n s) (hdigit : isDigitIn 16 d = false)
    (hd : d ∉ ['_', '+', 'x', 'o']) : d ∉ s := fun hmem => by
  rcases hs.mem hmem with h | h
  · exact absurd h (by simp [hdigit])
  · exact hd h

private theorem SpellsNatural.ne_nil (hs : SpellsNatural n s) : s ≠ [] := by
  cases hs with
  | decimal _ hs =>
    obtain ⟨d, more, rfl, -⟩ := hs.head?_isDigitIn
    simp
  | inBase => exact List.cons_ne_nil _ _

private theorem splitSign_append {sign : Text} (hsign : sign ∈ [[], ['+']]) (hs : GroupsDigits 10 digits s) :
    splitSign (sign ++ s) = (1, s) := by
  simp only [List.mem_cons, List.not_mem_nil, or_false] at hsign
  rcases hsign with rfl | rfl
  · obtain ⟨d, t, rfl, hd⟩ := hs.head?_isDigitIn
    rw [List.nil_append, splitSign]
    all_goals
      rintro r heq
      rw [(List.cons.inj heq).1] at hd
      exact absurd hd (by decide)
  · rfl

private theorem isDigit_or_of_groupsDigits (hs : GroupsDigits 10 digits s) : ∀ c ∈ s, c.isDigit || c = '_' := by
  intro c hc
  rcases hs.isDigitIn_or_of_mem hc with hd | rfl
  · rw [isDigit_of_isDigitIn hd, Bool.true_or]
  · decide

private theorem SpellsNatural.isFloat (hs : SpellsNatural n s) : isFloat s = false := by
  cases hs with
  | @decimal sign digits t hsign hs =>
    have hsplit : splitSign (sign ++ t) = (1, t ++ []) := by rw [List.append_nil, splitSign_append hsign hs]
    exact isFloat_eq_false hsplit hs.head?_isDigitIn (isDigit_or_of_groupsDigits hs) (.inl rfl)
  | inBase hmark =>
    have hzero : ∃ d more, ['0'] = d :: more ∧ isDigitIn 10 d = true := ⟨_, _, rfl, by decide⟩
    refine isFloat_eq_false rfl hzero (List.all_eq_true.1 rfl) (.inr ⟨_, _, rfl, ?_⟩)
    simp only [baseMarks, List.mem_cons, Prod.mk.injEq, List.not_mem_nil, or_false] at hmark
    rcases hmark with ⟨rfl, -⟩ | ⟨rfl, -⟩ | ⟨rfl, -⟩ <;> decide

private theorem SpellsNatural.integer? (hs : SpellsNatural n s) : integer? s = some (.integer n) := by
  cases hs with
  | inBase hmark hs hn =>
    simp only [baseMarks, List.mem_cons, Prod.mk.injEq, List.not_mem_nil, or_false] at hmark
    rcases hmark with ⟨rfl, rfl⟩ | ⟨rfl, rfl⟩ | ⟨rfl, rfl⟩ <;>
      rw [Toml.integer?, inBase?, if_pos (isGrouped_of_groupsDigits hs (by decide)),
        hs.ungroup? (Nat.le_refl _) (by decide), Option.map_some, integerOf_natural hn]
  | @decimal sign digits s hsign hs hn hzero =>
    -- without a mark among the characters no other base is tried
    have hmark : ∀ mark ∈ ['x', 'o', 'b'], ∀ more, sign ++ s ≠ '0' :: mark :: more := by
      intro mark hmark more heq
      have hmem : mark ∈ sign ++ s := by simp [heq]
      rcases List.mem_append.1 hmem with hin | hin
      · simp only [List.mem_cons, List.not_mem_nil, or_false] at hsign hmark
        rcases hsign with rfl | rfl
        · cases hin
        · rw [List.mem_singleton.1 hin] at hmark
          exact absurd hmark (by decide)
      · rcases hs.isDigitIn_or_of_mem hin with hd | rfl
        · simp only [List.mem_cons, List.not_mem_nil, or_false] at hmark
          rcases hmark with rfl | rfl | rfl <;> exact absurd hd (by decide)
        · exact absurd hmark (by decide)
    rw [Toml.integer?]
    · simp only [splitSign_append hsign hs, isWrittenDecimal_of_groupsDigits hs hzero, if_true,
        hs.ungroup? (by decide) (Nat.le_refl 16), Option.map_some, integerOf_natural hn]
    · exact fun more => hmark 'x' (by decide) more
    · exact fun more => hmark 'o' (by decide) more
    · exact fun more => hmark 'b' (by decide) more

/-- A word that stands for a natural number is read as that number. -/
theorem ofWord?_of_natural (hs : SpellsNatural n s) : ofWord? s = some (.integer n) := by
  have hname : ∀ {name : Text} {d : Char}, d ∈ name → isDigitIn 16 d = false → d ∉ ['_', '+', 'x', 'o'] → s ≠ name := by
    rintro name d hmem hdigit hd rfl
    exact hs.not_mem hdigit hd hmem
  have hdate : isDateTime s = false :=
    isDateTime_eq_false (hs.not_mem (by decide) (by decide)) (hs.not_mem (by decide) (by decide))
  rw [ofWord?, if_neg (hname (d := 't') (by decide) (by decide) (by decide)),
    if_neg (hname (d := 's') (by decide) (by decide) (by decide)), hs.isFloat, hdate, if_neg Bool.false_ne_true,
    if_neg Bool.false_ne_true, hs.integer?]

/-! ### Words -/

/-- A word that stands for a value: no character of it ends words, and it is neither a date nor quoted. -/
structure IsWord (word : Text) (v : Toml) : Prop where
  ne_nil : word ≠ []
  isWordPart : ∀ c ∈ word, isWordPart c = true
  no_hyphen : '-' ∉ word
  no_quote : '"' ∉ word ∧ '\'' ∉ word
  value : ofWord? word = some v

theorem isWord_of_natural (hs : SpellsNatural n s) : IsWord s (.integer n) where
  ne_nil := hs.ne_nil
  isWordPart := fun c hc => by
    rcases hs.mem hc with hd | hc
    · exact isWordPart_of_isDigitIn hd
    · simp only [List.mem_cons, List.not_mem_nil, or_false] at hc
      rcases hc with rfl | rfl | rfl | rfl <;> rfl
  no_hyphen := hs.not_mem (by decide) (by decide)
  no_quote := ⟨hs.not_mem (by decide) (by decide), hs.not_mem (by decide) (by decide)⟩
  value := ofWord?_of_natural hs

theorem isWord_boolean (b : Bool) : IsWord (if b then "true".toList else "false".toList) (.boolean b) := by
  cases b <;> exact ⟨by decide, List.all_eq_true.1 rfl, by decide, by decide, rfl⟩

/-- Whether no word and no string goes on at the front of a text. -/
def EndsWord (rest : Text) : Prop := ∀ c ∈ rest.head?, isWordPart c = false

/-- A word is read up to its end. -/
theorem scalar?_of_isWord (hw : IsWord word v) (hrest : EndsWord rest) : scalar? (word ++ rest) = some (v, rest) := by
  have hsplit : splitWord (word ++ rest) = (word, rest) := by
    obtain ⟨htake, hdrop⟩ := takeWhile_dropWhile_append hw.isWordPart hrest
    simp only [splitWord, htake, hdrop, date?_eq_none hw.no_hyphen]
    split <;> simp
  have hquote : ¬ ((word ++ rest).head? = some '"' ∨ (word ++ rest).head? = some '\'') := by
    obtain ⟨c, more, rfl⟩ := List.exists_cons_of_ne_nil hw.ne_nil
    rintro (heq | heq) <;> cases heq
    · exact hw.no_quote.1 List.mem_cons_self
    · exact hw.no_quote.2 List.mem_cons_self
  rw [scalar?, if_neg hquote, hsplit]
  simp only [hw.value]
  rfl

end Toml

end KeywordFinder
