import KeywordFinder.Text.Printable
import KeywordFinder.Text.Blank

/-!
# Quoted texts

Messages show a keyword between double quotes.  Quotes, backslashes and line breaks get a backslash,
and whatever would not show, or would attach to its neighbour, is written by its code point.
-/

namespace KeywordFinder

/-- The digit of value `n` in lower-case hexadecimal. -/
def hexDigit (n : Nat) : Char :=
  if n < 10 then Char.ofNat (0x30 + n) else Char.ofNat (0x57 + n)

/-- The hexadecimal digits of `n` without leading zeros, for `n` below `16 ^ (fuel + 1)`. -/
def hexDigits : Nat → Nat → Text
  | 0, n => [hexDigit (n % 16)]
  | fuel + 1, n => if n < 16 then [hexDigit n] else hexDigits fuel (n / 16) ++ [hexDigit (n % 16)]

/-- One character inside quotes. -/
def quoteChar (c : Char) : Text :=
  match c with
  | '\x00' => ['\\', '0']
  | '\t' => ['\\', 't']
  | '\n' => ['\\', 'n']
  | '\r' => ['\\', 'r']
  | '"' => ['\\', '"']
  | '\\' => ['\\', '\\']
  | c =>
    if isPrintable c then [c]
    else ['\\', 'u', '\x7b'] ++ hexDigits 5 c.toNat ++ ['\x7d']

/-- A text between quotes. -/
def quote (s : Text) : Text := '"' :: s.flatMap quoteChar ++ ['"']

/-- A list of quoted texts between brackets. -/
def quoteList (l : List Text) : Text :=
  '[' :: (List.intersperse ", ".toList (l.map quote)).flatten ++ [']']

end KeywordFinder
