import KeywordFinder.Files.Path

/-!
# Shapes of paths

A glob stands for a shape, and a shape is matched against the bytes of a whole path.  The basic
operation is `Shape.rests`: what can be left of a text after a front part of the shape is taken off.
-/

namespace KeywordFinder

/-- The smallest parts of a shape. -/
inductive Atom where
  /-- A character for itself. -/
  | literal (c : Char)
  /-- One byte. -/
  | anyByte
  /-- Any bytes. -/
  | anyBytes
  /-- One byte in the given ranges, or outside them if `negated` is set. -/
  | oneOf (negated : Bool) (ranges : List (UInt8 × UInt8))
  /-- Any directories at the front of a path. -/
  | leadingDirs
  /-- Everything inside a directory. -/
  | contents
  /-- A slash, or two with any directories between them. -/
  | innerDirs
deriving DecidableEq, Repr

/-- A shape: nothing, an atom, one shape after another, or a choice of two. -/
inductive Shape where
  | nothing
  | atom (a : Atom)
  | seq (first second : Shape)
  | choice (first second : Shape)
deriving DecidableEq, Repr

/-- Whether a wildcard stands for the byte.  If `separated` is set, none stands for a slash. -/
def wildcardTakes (separated : Bool) (b : UInt8) : Bool := !separated || b ≠ slash

/-- What can be left of a text after any bytes that satisfy `p` are taken off. -/
def restsWhile (p : UInt8 → Bool) : Bytes → List Bytes
  | [] => [[]]
  | b :: s => (b :: s) :: if p b then restsWhile p s else []

/-- What follows each slash of a text. -/
def restsAfterSlash : Bytes → List Bytes
  | [] => []
  | b :: s => if b = slash then s :: restsAfterSlash s else restsAfterSlash s

/-- The text after the given front part, if it has it. -/
def stripFront? : (front text : Bytes) → Option Bytes
  | [], s => some s
  | _ :: _, [] => none
  | a :: as, b :: s => if a = b then stripFront? as s else none

namespace Atom

/-- What can be left of one text after an atom is taken off. -/
def rests (separated : Bool) : Atom → Bytes → List Bytes
  | literal c, s => (stripFront? (encode [c]) s).toList
  | anyByte, b :: s => if wildcardTakes separated b then [s] else []
  | anyByte, [] => []
  | anyBytes, s => restsWhile (wildcardTakes separated) s
  | oneOf negated ranges, b :: s =>
    if ranges.any (fun r => r.1 ≤ b && b ≤ r.2) != negated then [s] else []
  | oneOf _ _, [] => []
  | leadingDirs, s => s :: restsAfterSlash s
  | contents, b :: s => if b = slash then restsWhile (fun _ => true) s else []
  | contents, [] => []
  | innerDirs, b :: s => if b = slash then s :: restsAfterSlash s else []
  | innerDirs, [] => []

end Atom

namespace Shape

/-- What can be left of the given texts after a shape is taken off, each rest once. -/
def rests (separated : Bool) : Shape → List Bytes → List Bytes
  | nothing, texts => texts
  | atom a, texts => (texts.flatMap (a.rests separated)).eraseDups
  | seq f g, texts => g.rests separated (f.rests separated texts)
  | choice f g, texts => (f.rests separated texts ++ g.rests separated texts).eraseDups

/-- One shape after another. -/
def ofList : List Shape → Shape
  | [] => nothing
  | s :: l => seq s (ofList l)

/-- A choice of shapes; without any the shape is nothing. -/
def ofChoices : List Shape → Shape
  | [] => nothing
  | [s] => s
  | s :: l => choice s (ofChoices l)

end Shape

end KeywordFinder
