import KeywordFinder.Text.Utf8

/-!
# Pieces between line feeds

Byte strings are cut after each line feed.  Nothing is lost: the pieces and what follows the last of
them are the byte string (`cutAtFeeds_flatten`).
-/

namespace KeywordFinder

/-- The byte of a line feed. -/
def lineFeed : UInt8 := 0x0A

/-- The byte of a carriage return. -/
def carriageReturn : UInt8 := 0x0D

/-- The pieces of a byte string that end with a line feed, and what follows the last of them. -/
def cutAtFeeds : Bytes → List Bytes × Bytes
  | [] => ([], [])
  | b :: s =>
    match cutAtFeeds s with
    | (p :: ps, r) => if b = lineFeed then ([b] :: p :: ps, r) else ((b :: p) :: ps, r)
    | ([], r) => if b = lineFeed then ([[b]], r) else ([], b :: r)

theorem cutAtFeeds_flatten (s : Bytes) : (cutAtFeeds s).1.flatten ++ (cutAtFeeds s).2 = s := by
  induction s with
  | nil => rfl
  | cons b s ih =>
    unfold cutAtFeeds
    split
    · next p ps r h =>
      rw [h] at ih
      split <;> simpa using ih
    · next r h =>
      rw [h] at ih
      split <;> simpa using ih

/-- A byte string without the given last byte. -/
def stripLast (b : UInt8) (s : Bytes) : Bytes :=
  if s.getLast? = some b then s.dropLast else s

/-- The lines of a file in which a carriage return counts only before a line feed. -/
def feedLines (s : Bytes) : List Bytes :=
  let (pieces, rest) := cutAtFeeds s
  pieces.map (fun p => stripLast carriageReturn (stripLast lineFeed p))
    ++ if rest.isEmpty then [] else [rest]

end KeywordFinder
