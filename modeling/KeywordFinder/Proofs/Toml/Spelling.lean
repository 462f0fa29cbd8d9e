import KeywordFinder.Toml.Parser

/-!
# How documents are spelled

The same statements can be written in many ways.  A character of a string stands for itself or is escaped, a key has
quotes or none, a number may have a sign, a base and groups of digits, and blanks, line breaks and comments may stand
between all of these.  A spelling is a relation between what is meant and a text that says it (`SpellsDocument`);
strings, truth values, natural numbers and arrays of strings have spellings here (`exists_spellsDocument`).
-/

namespace KeywordFinder

namespace Toml

/-! ### Between the words -/

/-- Blanks within a line. -/
def IsSpaces (s : Text) : Prop := ∀ c ∈ s, isSpace c = true

/-- What may stand behind a statement on its line: blanks, and perhaps a comment. -/
inductive IsLineRest : Text → Prop
  | spaces {s : Text} (hs : IsSpaces s) : IsLineRest s
  | comment {s comment : Text} (hs : IsSpaces s) (hplain : ∀ c ∈ comment, isPlain c = true) :
      IsLineRest (s ++ '#' :: comment)

/-- A line break. -/
inductive IsBreak : Text → Prop
  | feed : IsBreak ['\n']
  | both : IsBreak ['\r', '\n']

/-- Blanks, line breaks and whole comments. -/
inductive IsGap : Text → Prop
  | spaces {s : Text} (hs : IsSpaces s) : IsGap s
  | line {s b gap : Text} (hs : IsLineRest s) (hb : IsBreak b) (hgap : IsGap gap) : IsGap (s ++ (b ++ gap))

/-! ### Strings and keys -/

/-- The characters that have an escape by a letter or sign of their own. -/
def shortEscapes : List (Char × Char) :=
  [('b', '\x08'), ('t', '\t'), ('n', '\n'), ('f', '\x0c'), ('r', '\r'), ('e', '\x1b'), ('"', '"'), ('\\', '\\')]

/-- The marks of escapes by code point, and how many digits follow each. -/
def codeEscapes : List (Char × Nat) := [('x', 2), ('u', 4), ('U', 8)]

/-- A text in a basic string that stands for a character. -/
inductive SpellsChar (c : Char) : Text → Prop
  | plain (hplain : isPlain c = true) (hquote : c ≠ '"') (hescape : c ≠ '\\') : SpellsChar c [c]
  | short {name : Char} (hname : (name, c) ∈ shortEscapes) : SpellsChar c ['\\', name]
  | code {mark : Char} {n : Nat} {digits : Text} (hmark : (mark, n) ∈ codeEscapes) (hlength : digits.length = n)
      (hcode : number? 16 digits = some c.toNat) : SpellsChar c ('\\' :: mark :: digits)

/-- The inside of a basic string that stands for a text. -/
inductive SpellsText : Text → Text → Prop
  | nil : SpellsText [] []
  | cons {c : Char} {t s body : Text} (hc : SpellsChar c s) (ht : SpellsText t body) :
      SpellsText (c :: t) (s ++ body)

/-- A basic string that stands for a text. -/
inductive SpellsString (t : Text) : Text → Prop
  | basic {body : Text} (hbody : SpellsText t body) : SpellsString t ('"' :: (body ++ ['"']))

/-- A key, without quotes if its characters allow that. -/
inductive SpellsKey (key : Text) : Text → Prop
  | bare (hne : key ≠ []) (hchars : ∀ c ∈ key, isKeyChar c = true) : SpellsKey key key
  | basic {s : Text} (hs : SpellsString key s) : SpellsKey key s
  | literal (hplain : ∀ c ∈ key, isPlain c = true) (hquote : '\'' ∉ key) :
      SpellsKey key ('\'' :: (key ++ ['\'']))

/-- Keys with dots between them, and blanks around the dots. -/
inductive SpellsPath : List Text → Text → Prop
  | one {key s : Text} (hs : SpellsKey key s) : SpellsPath [key] s
  | cons {key s before behind more : Text} {keys : List Text} (hs : SpellsKey key s) (hbefore : IsSpaces before)
      (hbehind : IsSpaces behind) (hmore : SpellsPath keys more) :
      SpellsPath (key :: keys) (s ++ (before ++ '.' :: (behind ++ more)))

/-! ### Numbers -/

/-- Digits of a base, and how they are written with underscores between some of them. -/
inductive GroupsDigits (base : Nat) : (digits : Text) → Text → Prop
  | one {d : Char} (hd : isDigitIn base d = true) : GroupsDigits base [d] [d]
  | digit {d : Char} {digits s : Text} (hd : isDigitIn base d = true) (hs : GroupsDigits base digits s) :
      GroupsDigits base (d :: digits) (d :: s)
  | group {d : Char} {digits s : Text} (hd : isDigitIn base d = true) (hs : GroupsDigits base digits s) :
      GroupsDigits base (d :: digits) (d :: '_' :: s)

/-- The marks of bases other than ten. -/
def baseMarks : List (Char × Nat) := [('x', 16), ('o', 8), ('b', 2)]

/-- A text that stands for a natural number. -/
inductive SpellsNatural (n : Nat) : Text → Prop
  | decimal {sign digits s : Text} (hsign : sign ∈ [[], ['+']]) (hs : GroupsDigits 10 digits s)
      (hn : number? 10 digits = some n) (hzero : hasLeadingZero s = false) : SpellsNatural n (sign ++ s)
  | inBase {mark : Char} {base : Nat} {digits s : Text} (hmark : (mark, base) ∈ baseMarks)
      (hs : GroupsDigits base digits s) (hn : number? base digits = some n) : SpellsNatural n ('0' :: mark :: s)

/-! ### Values -/

/-- The items of an array of strings with the commas between them.  There may be a comma behind the last item. -/
inductive SpellsItems : List Text → Text → Prop
  | none {gap : Text} (hgap : IsGap gap) : SpellsItems [] gap
  | last {t gap s gap' : Text} (hgap : IsGap gap) (hs : SpellsString t s) (hgap' : IsGap gap') :
      SpellsItems [t] (gap ++ (s ++ gap'))
  | cons {t gap s gap' more : Text} {ts : List Text} (hgap : IsGap gap) (hs : SpellsString t s)
      (hgap' : IsGap gap') (hmore : SpellsItems ts more) :
      SpellsItems (t :: ts) (gap ++ (s ++ (gap' ++ ',' :: more)))

/-- A text that stands for a value. -/
inductive SpellsValue : Toml → Text → Prop
  | string {t s : Text} (hs : SpellsString t s) : SpellsValue (.string t) s
  | yes : SpellsValue (.boolean true) "true".toList
  | no : SpellsValue (.boolean false) "false".toList
  | natural {n : Nat} {s : Text} (hs : SpellsNatural n s) : SpellsValue (.integer n) s
  | strings {ts : List Text} {s : Text} (hs : SpellsItems ts s) :
      SpellsValue (.array false (ts.map .string)) ('[' :: (s ++ [']']))

/-! ### Documents -/

/-- A text that stands for a statement: a header with one key, or an assignment to one key. -/
inductive SpellsStatement : Statement → Text → Prop
  | header {key before s behind : Text} (hbefore : IsSpaces before) (hs : SpellsKey key s)
      (hbehind : IsSpaces behind) : SpellsStatement (.header [] key) ('[' :: (before ++ (s ++ (behind ++ [']']))))
  | assignment {key s before behind value : Text} {v : Toml} (hs : SpellsKey key s) (hbefore : IsSpaces before)
      (hbehind : IsSpaces behind) (hvalue : SpellsValue v value) :
      SpellsStatement (.assignment [] key v) (s ++ (before ++ '=' :: (behind ++ value)))

/-- Whole lines that stand for statements. -/
inductive SpellsLines : List Statement → Text → Prop
  | nil : SpellsLines [] []
  | cons {st : Statement} {sts : List Statement} {gap s rest b more : Text} (hgap : IsGap gap)
      (hs : SpellsStatement st s) (hrest : IsLineRest rest) (hb : IsBreak b) (hmore : SpellsLines sts more) :
      SpellsLines (st :: sts) (gap ++ (s ++ (rest ++ (b ++ more))))

/-- A document that stands for statements.  There may be no line break behind the last one. -/
inductive SpellsDocument : List Statement → Text → Prop
  | closed {sts : List Statement} {lines gap rest : Text} (hlines : SpellsLines sts lines) (hgap : IsGap gap)
      (hrest : IsLineRest rest) : SpellsDocument sts (lines ++ (gap ++ rest))
  | unclosed {sts : List Statement} {st : Statement} {lines gap s rest : Text} (hlines : SpellsLines sts lines)
      (hgap : IsGap gap) (hs : SpellsStatement st s) (hrest : IsLineRest rest) :
      SpellsDocument (sts ++ [st]) (lines ++ (gap ++ (s ++ rest)))

/-! ### There are spellings -/

variable {n : Nat}

theorem isSpaces_nil : IsSpaces [] := fun _ hc => absurd hc List.not_mem_nil

theorem number?_concat {base : Nat} {s : Text} {n d : Nat} (hs : number? base s = some n)
    (hc : digit? base c = some d) : number? base (s ++ [c]) = some (n * base + d) := by
  rw [number?] at hs
  split at hs
  · cases hs
  · rw [number?, if_neg (by simp), List.foldl_append, hs]
    simp [hc]

private theorem number?_singleton {base d : Nat} (hc : digit? base c = some d) : number? base [c] = some d := by
  simp [number?, hc]

private theorem exists_digit? {base d : Nat} (hbase : base ≤ 16) (hd : d < base) : ∃ c, digit? base c = some d := by
  have hall : ∀ base < 17, ∀ d < base, ("0123456789abcdef".toList.any fun c => digit? base c = some d) = true := by
    decide
  obtain ⟨c, -, hc⟩ := List.any_eq_true.1 (hall base (by omega) d hd)
  exact ⟨c, of_decide_eq_true hc⟩

/-- A number has a spelling with any number of digits that is large enough for it. -/
private theorem exists_number?_of_lt {k : Nat} (hn : n < Nat.pow 16 (k + 1)) :
    ∃ digits : Text, digits.length = k + 1 ∧ number? 16 digits = some n := by
  induction k generalizing n with
  | zero =>
    obtain ⟨c, hc⟩ := exists_digit? (Nat.le_refl 16) hn
    exact ⟨[c], rfl, number?_singleton hc⟩
  | succ k ih =>
    have hdiv : n / 16 < Nat.pow 16 (k + 1) := (Nat.div_lt_iff_lt_mul (by decide)).2 hn
    obtain ⟨digits, hlength, hdigits⟩ := ih hdiv
    obtain ⟨c, hc⟩ := exists_digit? (Nat.le_refl 16) (Nat.mod_lt n (by omega))
    refine ⟨digits ++ [c], by rw [List.length_append, hlength]; rfl, ?_⟩
    rw [number?_concat hdigits hc, Nat.div_add_mod' n 16]

/-- Escaped by its code point, each character has a spelling. -/
theorem exists_spellsString (t : Text) : ∃ s, SpellsString t s := by
  have hbody : ∃ body, SpellsText t body := by
    induction t with
    | nil => exact ⟨[], .nil⟩
    | cons c t ih =>
      obtain ⟨body, hbody⟩ := ih
      have hlt : c.toNat < Nat.pow 16 (7 + 1) := Nat.lt_of_lt_of_le c.val.toNat_lt (by decide)
      obtain ⟨digits, hlength, hdigits⟩ := exists_number?_of_lt hlt
      exact ⟨_, .cons (.code (show ('U', 8) ∈ codeEscapes by decide) hlength hdigits) hbody⟩
  obtain ⟨body, hbody⟩ := hbody
  exact ⟨_, .basic hbody⟩

private theorem groupsDigits_self {base : Nat} {digits : Text} (hne : digits ≠ [])
    (hdigits : ∀ d ∈ digits, isDigitIn base d = true) : GroupsDigits base digits digits := by
  induction digits with
  | nil => exact absurd rfl hne
  | cons d digits ih =>
    rw [List.forall_mem_cons] at hdigits
    cases digits with
    | nil => exact .one hdigits.1
    | cons d' digits => exact .digit hdigits.1 (ih (List.cons_ne_nil _ _) hdigits.2)

/-- A number has decimal digits, and starts with a zero only if it is zero. -/
private theorem exists_decimal (n : Nat) : ∃ digits : Text, digits ≠ [] ∧ (∀ d ∈ digits, isDigitIn 10 d = true) ∧
    number? 10 digits = some n ∧ hasLeadingZero digits = false ∧ (n ≠ 0 → digits.head? ≠ some '0') := by
  induction n using Nat.strongRecOn with
  | ind n ih =>
    obtain ⟨c, hc⟩ := exists_digit? (show 10 ≤ 16 by decide) (Nat.mod_lt n (by decide))
    have hdigit : isDigitIn 10 c = true := by rw [isDigitIn, hc]; rfl
    by_cases hsmall : n < 10
    · rw [Nat.mod_eq_of_lt hsmall] at hc
      refine ⟨[c], List.cons_ne_nil _ _, by simpa using hdigit, number?_singleton hc, by simp [hasLeadingZero], ?_⟩
      rintro hn heq
      cases heq
      exact hn (Option.some.inj (hc.symm.trans (by decide)))
    · obtain ⟨digits, hne, hall, hnumber, -, hhead⟩ := ih (n / 10) (by omega)
      have hhead' : (digits ++ [c]).head? ≠ some '0' := by
        obtain ⟨d, digits, rfl⟩ := List.exists_cons_of_ne_nil hne
        exact hhead (by omega)
      refine ⟨digits ++ [c], by simp, ?_, ?_, by rw [hasLeadingZero, decide_eq_false hhead', Bool.false_and],
        fun _ => hhead'⟩
      · intro d hd
        rcases List.mem_append.1 hd with hd | hd
        · exact hall d hd
        · rwa [List.mem_singleton.1 hd]
      · rw [number?_concat hnumber hc, Nat.div_add_mod' n 10]

theorem exists_spellsNatural (n : Nat) : ∃ s, SpellsNatural n s := by
  obtain ⟨digits, hne, hall, hnumber, hzero, -⟩ := exists_decimal n
  exact ⟨_, .decimal (List.mem_cons_self ..) (groupsDigits_self hne hall) hnumber hzero⟩

theorem exists_spellsItems (ts : List Text) : ∃ s, SpellsItems ts s := by
  induction ts with
  | nil => exact ⟨[], .none (.spaces isSpaces_nil)⟩
  | cons t ts ih =>
    obtain ⟨more, hmore⟩ := ih
    obtain ⟨s, hs⟩ := exists_spellsString t
    exact ⟨_, .cons (.spaces isSpaces_nil) hs (.spaces isSpaces_nil) hmore⟩

theorem exists_spellsStatement_header (key : Text) : ∃ s, SpellsStatement (.header [] key) s := by
  obtain ⟨s, hs⟩ := exists_spellsString key
  exact ⟨_, .header isSpaces_nil (.basic hs) isSpaces_nil⟩

theorem exists_spellsStatement_assignment (key : Text) {v : Toml} (hv : ∃ s, SpellsValue v s) :
    ∃ s, SpellsStatement (.assignment [] key v) s := by
  obtain ⟨s, hs⟩ := exists_spellsString key
  obtain ⟨value, hvalue⟩ := hv
  exact ⟨_, .assignment (.basic hs) isSpaces_nil isSpaces_nil hvalue⟩

/-- Statements that have spellings one by one have one as a document. -/
theorem exists_spellsDocument {sts : List Statement} (h : ∀ st ∈ sts, ∃ s, SpellsStatement st s) :
    ∃ document, SpellsDocument sts document := by
  have hlines : ∃ lines, SpellsLines sts lines := by
    induction sts with
    | nil => exact ⟨[], .nil⟩
    | cons st sts ih =>
      rw [List.forall_mem_cons] at h
      obtain ⟨s, hs⟩ := h.1
      obtain ⟨more, hmore⟩ := ih h.2
      exact ⟨_, .cons (.spaces isSpaces_nil) hs (.spaces isSpaces_nil) .feed hmore⟩
  obtain ⟨lines, hlines⟩ := hlines
  exact ⟨_, .closed hlines (.spaces isSpaces_nil) (.spaces isSpaces_nil)⟩

end Toml

end KeywordFinder
