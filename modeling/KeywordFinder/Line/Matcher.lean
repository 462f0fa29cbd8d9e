import KeywordFinder.Line.Match

/-!
# The line matcher

A matcher holds a keyword and the active roles, and reports a line in the first role that matches it.
-/

namespace KeywordFinder

/-- The greatest weight that a keyword may have: the limit on the size of a compiled pattern, in bytes. -/
def maxWeight : Nat := 10 * 1024 * 1024

/-- The weight of one character of a keyword: characters that stand for themselves weigh by their
encoded length, characters with other cases weigh more, and those with a third form most.

The weights only estimate the bytes that a character adds to the compiled pattern.  They are from a
count by hand of the states of an automaton that reads the character backwards.  A state takes 32 bytes,
and one with several edges takes 8 more for each edge that reads a byte and 4 for each other one.  A
letter of one byte with one other case has two states, one of them with two edges (80), two cases of two
bytes with the first in common have five states, one of them with two edges that read nothing (168), and
`k` with the Kelvin sign of three bytes has seven states, one of them with three such edges (236).  Other
letters come to other figures, such as `s` with the long s to 204. -/
def charWeight (ignoreCase : Bool) (c : Char) : Nat :=
  if !ignoreCase || caseVariants c == 1 then 32 * c.utf8Size
  else if c.utf8Size == 1 then (if caseVariants c == 2 then 80 else 236)
  else 84 * c.utf8Size

/-- The weight of a keyword, without what a role adds to the pattern. -/
def Keyword.weight (k : Keyword) : Nat := k.text.foldl (fun n c => n + charWeight k.ignoreCase c) 0

/-- Whether a keyword is small enough to be searched for.  Near the limit this is as rough as the weights
are. -/
def Keyword.fits (k : Keyword) : Bool := k.weight ≤ maxWeight

/-- A keyword with the roles in which it is looked for. -/
structure Matcher where
  keyword : Keyword
  /-- The active roles, in the order of precedence. -/
  roles : List Role
deriving DecidableEq, Repr

namespace Matcher

/-- The matcher of a keyword under a selection of roles, if the keyword is small enough. -/
def build? (k : Keyword) (selection : List Role) : Option Matcher :=
  if k.fits then some ⟨k, Role.ordered selection⟩ else none

/-- The match of a line in the first active role that has one. -/
def find? (m : Matcher) (line : Text) : Option Match :=
  if isCommentLine line then none else m.roles.findSome? (·.match? m.keyword line)

end Matcher

end KeywordFinder
