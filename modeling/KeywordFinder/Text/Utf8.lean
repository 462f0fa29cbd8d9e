import KeywordFinder.Text.Blank

/-!
# UTF-8

Byte strings are decoded one byte at a time.  A maximal part that starts no character, or breaks one
off, counts as one undecodable piece: strict decoding refuses it (`decode?`), display shows the
replacement character for it (`decodeLossy`).
-/

namespace KeywordFinder

/-- File contents, names and paths are byte strings. -/
abbrev Bytes := List UInt8

namespace Utf8

/-- A character of which the leading bytes are read: how many are still to come, the bounds of the next
one, and the bits read so far. -/
structure Pending where
  missing : Nat
  least : Nat
  most : Nat
  bits : Nat

/-- Reads a byte that starts a character: pieces that are complete, and a character left pending. -/
def start (b : UInt8) : List (Option Char) × Option Pending :=
  let n := b.toNat
  if n < 0x80 then ([some (Char.ofNat n)], none)
  else if n < 0xC2 then ([none], none)
  else if n < 0xE0 then ([], some ⟨1, 0x80, 0xBF, n - 0xC0⟩)
  else if n < 0xF0 then
    ([], some ⟨2, if n = 0xE0 then 0xA0 else 0x80, if n = 0xED then 0x9F else 0xBF, n - 0xE0⟩)
  else if n < 0xF5 then
    ([], some ⟨3, if n = 0xF0 then 0x90 else 0x80, if n = 0xF4 then 0x8F else 0xBF, n - 0xF0⟩)
  else ([none], none)

/-- Reads one byte after a pending character or none. -/
def step : Option Pending → UInt8 → List (Option Char) × Option Pending
  | none, b => start b
  | some p, b =>
    if p.least ≤ b.toNat && b.toNat ≤ p.most then
      let bits := p.bits * 64 + b.toNat % 64
      if p.missing ≤ 1 then ([some (Char.ofNat bits)], none)
      else ([], some ⟨p.missing - 1, 0x80, 0xBF, bits⟩)
    else (none :: (start b).1, (start b).2)

/-- The pieces of a byte string: characters, and `none` for each undecodable part. -/
def pieces : Option Pending → Bytes → List (Option Char)
  | none, [] => []
  | some _, [] => [none]
  | p, b :: s => (step p b).1 ++ pieces (step p b).2 s

end Utf8

/-- The text that a byte string encodes, if it is valid UTF-8. -/
def decode? (s : Bytes) : Option Text := (Utf8.pieces none s).mapM id

/-- The text of a byte string, with the replacement character for each undecodable part. -/
def decodeLossy (s : Bytes) : Text := (Utf8.pieces none s).map (·.getD (Char.ofNat 0xFFFD))

/-- The UTF-8 encoding of a text. -/
def encode (s : Text) : Bytes := s.flatMap String.utf8EncodeChar

/-- The number of bytes in the encoding of a text. -/
def encodedLength (s : Text) : Nat := s.foldl (fun n c => n + c.utf8Size) 0

/-- The bytes of a literal. -/
def bytes (s : String) : Bytes := encode s.toList

end KeywordFinder
