import KeywordFinder.Text.Blank

/-!
# Numbers and characters written with digits

Digits in any base up to sixteen, in letters of either case.
-/

namespace KeywordFinder

/-- The value of a digit in a base up to sixteen. -/
def digit? (base : Nat) (c : Char) : Option Nat :=
  let n := c.toNat
  let v := if c.isDigit then n - 0x30
    else if 'a' ≤ c ∧ c ≤ 'f' then n - 0x57
    else if 'A' ≤ c ∧ c ≤ 'F' then n - 0x37
    else 16
  if v < base then some v else none

/-- The number that digits write. -/
def number? (base : Nat) (s : Text) : Option Nat :=
  if s.isEmpty then none
  else s.foldl (fun n c => do return (← n) * base + (← digit? base c)) (some 0)

/-- The character of a code point, unless that is a surrogate or too large. -/
def charOfCode? (n : Nat) : Option Char := if n.isValidChar then some (Char.ofNat n) else none

/-- The character whose code point the first so many hexadecimal digits write. -/
def charOfDigits? (digits : Nat) (s : Text) : Option Char :=
  if digits ≤ s.length then (number? 16 (s.take digits)).bind charOfCode? else none

end KeywordFinder
