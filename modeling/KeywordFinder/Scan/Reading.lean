import KeywordFinder.Fault
import KeywordFinder.Text.Feeds

/-!
# Reading lines

A file arrives as chunks of bytes, none of which is empty.  It is read in pieces that end with a line
feed, wherever the chunks are cut, and each piece holds one or more lines: a carriage return ends a line
like a line feed does, and both together end it once.
-/

namespace KeywordFinder

/-- What a reader delivers before the content ends. -/
inductive ReadEvent where
  /-- Some bytes.  No chunk is empty, since an empty one means that there is nothing more to read. -/
  | chunk (content : Bytes) (nonempty : content ≠ [] := by decide)
  /-- The read was interrupted and is tried again. -/
  | interruption
  /-- The read failed for good. -/
  | failure
deriving DecidableEq, Repr

/-- The delivery of a content in one chunk, and of an empty one in none. -/
def inOneChunk (content : Bytes) : List ReadEvent :=
  if h : content = [] then [] else [.chunk content h]

/-- Puts bytes that were read before in front of the first piece. -/
def resume (held : Bytes) : List Bytes × Bytes → List Bytes × Bytes
  | (p :: ps, r) => ((held ++ p) :: ps, r)
  | ([], r) => ([], held ++ r)

/-- The pieces that a reader yields after some bytes of a piece are read.  At the end the bytes held
back are a piece of their own; after a failure they are lost. -/
def piecesFrom (held : Bytes) : List ReadEvent → List Bytes
  | [] => if held.isEmpty then [] else [held]
  | .chunk s _ :: es =>
    let cut := resume held (cutAtFeeds s)
    cut.1 ++ piecesFrom cut.2 es
  | .interruption :: es => piecesFrom held es
  | .failure :: _ => []

/-- The parts of a byte string between carriage returns. -/
def splitAtReturns : Bytes → List Bytes
  | [] => [[]]
  | b :: s =>
    if b = carriageReturn then [] :: splitAtReturns s
    else match splitAtReturns s with
      | l :: ls => (b :: l) :: ls
      | [] => [[b]]

/-- The lines of a piece. -/
def linesOfPiece (piece : Bytes) : List Bytes :=
  splitAtReturns (stripLast carriageReturn (stripLast lineFeed piece))

/-- The lines that a reader yields. -/
def linesRead (events : List ReadEvent) : List Bytes :=
  (piecesFrom [] events).flatMap linesOfPiece

end KeywordFinder
