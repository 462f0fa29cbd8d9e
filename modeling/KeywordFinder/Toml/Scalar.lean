import KeywordFinder.Text.Digits
import KeywordFinder.Toml.Value

/-!
# TOML strings, numbers and dates

Readers take a text and give the value and the rest of the text.  Inside strings a backslash starts an
escape, and control characters other than the tab are refused everywhere.
-/

namespace KeywordFinder

namespace Toml

/-- Blanks within a line. -/
def isSpace (c : Char) : Bool := c = ' ' || c = '\t'

/-- Whether a character may stand in comments and strings. -/
def isPlain (c : Char) : Bool := c = '\t' || (0x20 ≤ c.toNat && c.toNat ≠ 0x7F)

/-! ### Strings -/

/-- An escape by code point: the character, and how many characters after the backslash it takes. -/
def codeEscape? (digits : Nat) (s : Text) : Option (Char × Nat) :=
  (charOfDigits? digits s).map (·, digits + 1)

/-- Reads an escape after its backslash: the character, and how many characters it takes. -/
def escape? : Text → Option (Char × Nat)
  | 'b' :: _ => some ('\x08', 1)
  | 't' :: _ => some ('\t', 1)
  | 'n' :: _ => some ('\n', 1)
  | 'f' :: _ => some ('\x0c', 1)
  | 'r' :: _ => some ('\r', 1)
  | 'e' :: _ => some ('\x1b', 1)
  | '"' :: _ => some ('"', 1)
  | '\\' :: _ => some ('\\', 1)
  | 'x' :: s => codeEscape? 2 s
  | 'u' :: s => codeEscape? 4 s
  | 'U' :: s => codeEscape? 8 s
  | _ => none

/-- Reads a basic string after its quote, skipping `skip` characters. -/
def basicBody : (skip : Nat) → Text → Option (Text × Text)
  | _, [] => none
  | skip + 1, _ :: s => basicBody skip s
  | 0, c :: s =>
    if c = '"' then some ([], s)
    else if c = '\\' then do
      let (d, taken) ← escape? s
      let (body, rest) ← basicBody taken s
      return (d :: body, rest)
    else if isPlain c then do
      let (body, rest) ← basicBody 0 s
      return (c :: body, rest)
    else none

/-- Reads a literal string after its quote. -/
def literalBody : Text → Option (Text × Text)
  | [] => none
  | c :: s =>
    if c = '\'' then some ([], s)
    else if isPlain c then do
      let (body, rest) ← literalBody s
      return (c :: body, rest)
    else none

/-- Whether a carriage return before the given text belongs to a line break. -/
def breaksLine (s : Text) : Bool := s.head? = some '\n'

/-- The number of blanks and line breaks at the front of a text. -/
def gapLength : Text → Nat
  | [] => 0
  | c :: s => if isSpace c || c = '\n' || (c = '\r' && breaksLine s) then gapLength s + 1 else 0

/-- How many characters a backslash at the end of a line takes away after it, if it stands there. -/
def continuation? (s : Text) : Option Nat :=
  let rest := s.dropWhile isSpace
  if breaksLine rest || (rest.head? = some '\r' && breaksLine rest.tail) then some (gapLength s) else none

/-- The end of a string over several lines after three of its quotes: up to two more quotes belong to
the string. -/
def closeQuotes (quote : Char) (s : Text) : Text × Text :=
  let extra := min 2 (s.takeWhile (· = quote)).length
  (s.take extra, s.drop extra)

/-- Reads a basic string over several lines, skipping `skip` characters. -/
def multilineBody : (skip : Nat) → Text → Option (Text × Text)
  | _, [] => none
  | skip + 1, _ :: s => multilineBody skip s
  | 0, c :: s =>
    if c = '"' && ['"', '"'].isPrefixOf s then some (closeQuotes '"' (s.drop 2))
    else if c = '\\' then
      match continuation? s with
      | some taken => multilineBody taken s
      | none => do
        let (d, taken) ← escape? s
        let (body, rest) ← multilineBody taken s
        return (d :: body, rest)
    else if isPlain c || c = '\n' || (c = '\r' && breaksLine s) then do
      let (body, rest) ← multilineBody 0 s
      return (c :: body, rest)
    else none

/-- Reads a literal string over several lines. -/
def multilineLiteralBody : Text → Option (Text × Text)
  | [] => none
  | c :: s =>
    if c = '\'' && ['\'', '\''].isPrefixOf s then some (closeQuotes '\'' (s.drop 2))
    else if isPlain c || c = '\n' || (c = '\r' && breaksLine s) then do
      let (body, rest) ← multilineLiteralBody s
      return (c :: body, rest)
    else none

/-- A text without the line break that it starts with. -/
def dropLineBreak : Text → Text
  | '\n' :: s => s
  | '\r' :: '\n' :: s => s
  | s => s

/-- Reads a string of any kind. -/
def string? : Text → Option (Text × Text)
  | '"' :: '"' :: '"' :: s => multilineBody 0 (dropLineBreak s)
  | '"' :: s => basicBody 0 s
  | '\'' :: '\'' :: '\'' :: s => multilineLiteralBody (dropLineBreak s)
  | '\'' :: s => literalBody s
  | _ => none

/-! ### Numbers -/

/-- Whether a character is a digit in a base. -/
def isDigitIn (base : Nat) (c : Char) : Bool := (digit? base c).isSome

/-- The characters without the underscores.  An underscore stands between two digits of the base; what is
no digit may stand elsewhere. -/
def ungroup? (base : Nat) : Text → Option Text
  | [] => some []
  | '_' :: _ => none
  | [c] => some [c]
  | c :: '_' :: s =>
    if isDigitIn base c && s.head?.any (isDigitIn base) then (ungroup? base s).map (c :: ·) else none
  | c :: s => (ungroup? base s).map (c :: ·)

/-- The sign in front of a number, and the rest. -/
def splitSign : Text → Int × Text
  | '+' :: s => (1, s)
  | '-' :: s => (-1, s)
  | s => (1, s)

/-- Whether a text is digits, perhaps in groups with underscores between them. -/
def isGrouped (base : Nat) (s : Text) : Bool :=
  s.all (fun c => isDigitIn base c || c = '_') && (ungroup? base s).isSome

/-- Whether a number starts with a zero that it does not need. -/
def hasLeadingZero (s : Text) : Bool := s.head? = some '0' && s.length ≠ 1

/-- Whether a text is decimal digits, at least one of them. -/
def isDecimal (s : Text) : Bool := !s.isEmpty && isGrouped 10 s

/-- Whether a text is an exponent, after its mark. -/
def isExponent (s : Text) : Bool := isDecimal (splitSign s).2

/-- Whether a text is what may follow the whole part of a number with a fraction or an exponent. -/
def isFractionOrExponent : Text → Bool
  | '.' :: s =>
    let digits := s.takeWhile fun c => c.isDigit || c = '_'
    isDecimal digits &&
      match s.drop digits.length with
      | [] => true
      | e :: s => (e = 'e' || e = 'E') && isExponent s
  | e :: s => (e = 'e' || e = 'E') && isExponent s
  | [] => false

/-- Whether a text is a number with a fraction or an exponent, an infinity or no number. -/
def isFloat (s : Text) : Bool :=
  let s := (splitSign s).2
  let whole := s.takeWhile fun c => c.isDigit || c = '_'
  s = "inf".toList || s = "nan".toList ||
    (isDecimal whole && !hasLeadingZero whole && isFractionOrExponent (s.drop whole.length))

/-- Whether a text without its sign is written like a decimal integer: digits, and then only what an
underscore sets apart, without the marks of fractions and exponents. -/
def isWrittenDecimal (s : Text) : Bool :=
  let rest := s.dropWhile Char.isDigit
  !hasLeadingZero s && s.head?.any Char.isDigit && (rest.isEmpty || rest.head? = some '_')
    && !rest.any fun c => c = '.' || c = 'e' || c = 'E'

/-- The integer of a word, given its digits with their sign and base.  Digits that make no number do no
harm as long as nothing uses the value. -/
def integerOf (word : Text) (sign : Int) (base : Nat) (digits : Text) : Toml :=
  match number? base digits with
  | some n => .integer (sign * n)
  | none => .malformed word

/-- The integer after the mark of a base. -/
def inBase? (word : Text) (base : Nat) (s : Text) : Option Toml :=
  if isGrouped base s then (ungroup? base s).map (integerOf word 1 base) else none

/-- Reads an integer, in decimal or after the mark of another base.  Underscores in a decimal stand
between digits of any base. -/
def integer? (word : Text) : Option Toml :=
  match word with
  | '0' :: 'x' :: s => inBase? word 16 s
  | '0' :: 'o' :: s => inBase? word 8 s
  | '0' :: 'b' :: s => inBase? word 2 s
  | s =>
    let (sign, s) := splitSign s
    if isWrittenDecimal s then (ungroup? 16 s).map (integerOf word sign 10) else none

/-! ### Dates and times -/

/-- A number of exactly so many digits in the given bounds, and the rest. -/
def field? (digits least most : Nat) (s : Text) : Option (Nat × Text) := do
  guard (digits ≤ s.length)
  let n ← number? 10 (s.take digits)
  guard (least ≤ n ∧ n ≤ most)
  return (n, s.drop digits)

/-- The rest after the given character. -/
def after? (c : Char) : Text → Option Text
  | d :: s => if d = c then some s else none
  | [] => none

/-- The number of days in a month. -/
def daysIn (year month : Nat) : Nat :=
  if month = 2 then
    if year % 4 = 0 ∧ (year % 100 ≠ 0 ∨ year % 400 = 0) then 29 else 28
  else if month = 4 ∨ month = 6 ∨ month = 9 ∨ month = 11 then 30
  else 31

/-- The rest after a date. -/
def date? (s : Text) : Option Text := do
  let (year, s) ← field? 4 0 9999 s
  let (month, s) ← field? 2 1 12 (← after? '-' s)
  let (_, s) ← field? 2 1 (daysIn year month) (← after? '-' s)
  return s

/-- The rest after a fraction of a second, if there is one. -/
def fraction? : Text → Option Text
  | '.' :: s =>
    let digits := s.takeWhile Char.isDigit
    if digits.isEmpty then none else some (s.drop digits.length)
  | s => some s

/-- The rest after a time; seconds may be left out. -/
def time? (s : Text) : Option Text := do
  let (_, s) ← field? 2 0 23 s
  let (_, s) ← field? 2 0 59 (← after? ':' s)
  match s with
  | ':' :: s =>
    let (_, s) ← field? 2 0 60 s
    fraction? s
  | s => return s

/-- Whether a text is an offset from universal time, or empty. -/
def isOffset : Text → Bool
  | [] => true
  | ['Z'] => true
  | ['z'] => true
  | c :: s => (c = '+' || c = '-') && ((do
    let (_, s) ← field? 2 0 23 s
    let (_, s) ← field? 2 0 59 (← after? ':' s)
    return s) == some [])

/-- Whether a text is a date, a time or both. -/
def isDateTime (s : Text) : Bool :=
  match date? s with
  | some [] => true
  | some (c :: rest) =>
    (c = 'T' || c = 't' || c = ' ') && match time? rest with
      | some rest => isOffset rest
      | none => false
  | none => time? s == some []

/-! ### Values without a bracket -/

/-- The characters of words, numbers and dates: all but blanks, line breaks and the marks between
values. -/
def isWordPart (c : Char) : Bool :=
  !(isSpace c || ['\n', '\r', '=', ',', '[', ']', '{', '}', '#'].contains c)

/-- The longest word at the front of a text, and the rest.  A date and a time are one word, also with a
space between them. -/
def splitWord (s : Text) : Text × Text :=
  let word := s.takeWhile isWordPart
  let rest := s.dropWhile isWordPart
  match rest with
  | ' ' :: c :: more =>
    if date? word = some [] ∧ c.isDigit then
      let time := (c :: more).takeWhile isWordPart
      (word ++ ' ' :: time, (c :: more).drop time.length)
    else (word, rest)
  | _ => (word, rest)

/-- The value that a word stands for. -/
def ofWord? (w : Text) : Option Toml :=
  if w = "true".toList then some (.boolean true)
  else if w = "false".toList then some (.boolean false)
  else if isFloat w then some (.float w)
  else if isDateTime w then some (.dateTime w)
  else integer? w

/-- Reads a value that is neither an array nor a table. -/
def scalar? (s : Text) : Option (Toml × Text) :=
  if s.head? = some '"' ∨ s.head? = some '\'' then do
    let (body, rest) ← string? s
    return (.string body, rest)
  else do
    let (word, rest) := splitWord s
    return (← ofWord? word, rest)

end Toml

end KeywordFinder
