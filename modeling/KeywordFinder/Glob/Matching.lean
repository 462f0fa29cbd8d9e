import KeywordFinder.Glob.Parser

/-!
# Globs

A glob is matched against a whole path.  The two uses of globs differ in whether wildcards stand for
slashes and in whether an unclosed character class is a problem.
-/

namespace KeywordFinder

/-- How globs are read and matched. -/
structure GlobStyle where
  /-- Whether wildcards stop at slashes. -/
  separated : Bool
  /-- Whether the bracket of an unclosed class stands for itself. -/
  lenient : Bool

/-- A glob as its shapes in order. -/
structure Glob where
  separated : Bool
  shapes : List Shape
deriving DecidableEq, Repr

namespace Glob

/-- Reads a glob. -/
def parse (style : GlobStyle) (s : Text) : Except GlobProblem Glob :=
  (assemble [] [] none false (globSigns style.lenient true 0 s)).map (⟨style.separated, ·⟩)

/-- The characters of shapes that are all literal. -/
def literals? (shapes : List Shape) : Option Text :=
  shapes.mapM fun
    | .atom (.literal c) => some c
    | _ => none

/-- The literal characters at the end of shapes, from the last one on. -/
def literalsFromEnd (shapes : List Shape) : Text :=
  (shapes.reverse.map fun
    | .atom (.literal c) => some c
    | _ => none).takeWhile (·.isSome) |>.filterMap id

/-- The shapes without the directories and the star in front of them. -/
def afterWildcards (shapes : List Shape) : List Shape :=
  let rest := if shapes.head? = some (.atom .leadingDirs) then shapes.tail else shapes
  if rest.head? = some (.atom .anyBytes) then rest.tail else rest

/-- Whether a glob says something about the last name of a path alone: it gives that name, or its
extension and no more of the path's end than that. -/
def asksForName (g : Glob) : Bool :=
  let rest := afterWildcards g.shapes
  let fromEnd := literalsFromEnd g.shapes
  match literals? g.shapes, literals? rest with
  | some _, _ => false
  | none, some l =>
    if g.shapes.head? = some (.atom .leadingDirs) ∧ rest = g.shapes.tail then
      !l.isEmpty && !l.contains '/'
    else l.head? = some '.' && !l.tail.contains '.' && !l.contains '/'
  | none, none => fromEnd.contains '.' && !(fromEnd.takeWhile (· ≠ '.')).contains '/'

/-- Whether the last component of a path leads upwards. -/
def endsUpwards (path : Path) : Bool := (Path.components path).getLast? == some [dot, dot]

/-- Whether a glob matches a path.  Directories alone match every path, and a path that ends upwards
has no last name to ask for. -/
def isMatch (g : Glob) (path : Path) : Bool :=
  if g.shapes = [.atom .leadingDirs] then true
  else if g.asksForName && endsUpwards path then false
  else ((Shape.ofList g.shapes).rests g.separated [path]).contains []

end Glob

end KeywordFinder
