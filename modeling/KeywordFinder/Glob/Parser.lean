import KeywordFinder.Glob.Shape

/-!
# Reading globs

A glob is read in two steps: its characters are grouped into signs, and the signs are put together to
shapes.  The first problem from the left is reported; that a group is not closed shows only at the end.
-/

namespace KeywordFinder

/-- What is wrong with a glob. -/
inductive GlobProblem where
  | unclosedClass
  | invalidRange (first last : Char)
  | unclosedGroup
  | unopenedGroup
  | danglingEscape
deriving DecidableEq, Repr

/-- The wording of a problem. -/
def GlobProblem.message : GlobProblem → Text
  | unclosedClass => "unclosed character class; missing ']'".toList
  | invalidRange a b => "invalid range; '".toList ++ [a] ++ "' > '".toList ++ [b] ++ ['\'']
  | unclosedGroup =>
    "unclosed alternate group; missing '\x7d' (maybe escape '\x7b' with '[\x7b]'?)".toList
  | unopenedGroup =>
    "unopened alternate group; missing '\x7b' (maybe escape '\x7d' with '[\x7d]'?)".toList
  | danglingEscape => "dangling '\\'".toList

/-- The signs of a glob. -/
inductive GlobSign where
  | literal (c : Char) (escaped : Bool)
  | question
  | star
  | doubleStar
  | oneOf (negated : Bool) (ranges : List (UInt8 × UInt8))
  | openGroup
  | closeGroup
  | comma
  | problem (p : GlobProblem)
deriving DecidableEq, Repr

/-! ### Character classes -/

/-- How the reading of a character class ends. -/
inductive ClassReading where
  /-- The class with its ranges, the last one first, and the number of characters read. -/
  | closed (negated : Bool) (ranges : List (Char × Char)) (read : Nat)
  | unclosed
  | invalidRange (first last : Char)

/-- Reads the members of a class.  A bracket or hyphen that comes first stands for itself, and so does
a hyphen that comes last; a character after a hyphen ends the latest range. -/
def readMembers (negated first inRange : Bool) (ranges : List (Char × Char)) (read : Nat) :
    Text → ClassReading
  | [] => .unclosed
  | c :: s =>
    if c = ']' && !first then
      .closed negated (if inRange then ('-', '-') :: ranges else ranges) (read + 1)
    else if c = '-' && !first && !inRange then readMembers negated false true ranges (read + 1) s
    else match inRange, ranges with
      | true, (lo, _) :: more =>
        if c < lo then .invalidRange lo c
        else readMembers negated false false ((lo, c) :: more) (read + 1) s
      | _, _ => readMembers negated false false ((c, c) :: ranges) (read + 1) s

/-- Reads a class after its opening bracket. -/
def readClass : Text → ClassReading
  | '!' :: s => readMembers true true false [] 1 s
  | '^' :: s => readMembers true true false [] 1 s
  | s => readMembers false true false [] 0 s

/-- The byte ranges of a character range.  Characters beyond ASCII stand for their bytes one by one, so
a range runs from the last byte of its first character to the first byte of its last one. -/
def byteRanges (r : Char × Char) : List (UInt8 × UInt8) :=
  let single (b : UInt8) := (b, b)
  if r.1 = r.2 then (encode [r.1]).map single
  else match (encode [r.1]).reverse, encode [r.2] with
    | lo :: before, hi :: after => (lo, hi) :: (before.map single ++ after.map single)
    | _, _ => []

/-! ### Signs -/

/-- Groups the characters of a glob, after `skip` characters, into signs.  A class that is not closed
is a problem unless `lenient` is set; then its bracket and all later ones stand for themselves, and
`classes` is no longer set. -/
def globSigns (lenient classes : Bool) : (skip : Nat) → Text → List GlobSign
  | _, [] => []
  | skip + 1, _ :: s => globSigns lenient classes skip s
  | 0, c :: s =>
    match c with
    | '?' => .question :: globSigns lenient classes 0 s
    | '*' =>
      if s.head? = some '*' then .doubleStar :: globSigns lenient classes 1 s
      else .star :: globSigns lenient classes 0 s
    | '{' => .openGroup :: globSigns lenient classes 0 s
    | '}' => .closeGroup :: globSigns lenient classes 0 s
    | ',' => .comma :: globSigns lenient classes 0 s
    | '\\' =>
      match s.head? with
      | some d => .literal d true :: globSigns lenient classes 1 s
      | none => [.problem .danglingEscape]
    | '[' =>
      if classes then
        match readClass s with
        | .closed negated ranges read =>
          .oneOf negated (ranges.reverse.flatMap byteRanges) :: globSigns lenient classes read s
        | .unclosed =>
          if lenient then .literal '[' false :: globSigns lenient false 0 s
          else [.problem .unclosedClass]
        | .invalidRange a b => [.problem (.invalidRange a b)]
      else .literal '[' false :: globSigns lenient classes 0 s
    | c => .literal c false :: globSigns lenient classes 0 s

namespace GlobSign

/-- The first character of a sign. -/
def firstChar : GlobSign → Char
  | literal c escaped => if escaped then '\\' else c
  | question => '?'
  | star => '*'
  | doubleStar => '*'
  | oneOf _ _ => '['
  | openGroup => '{'
  | closeGroup => '}'
  | comma => ','
  | problem _ => '\\'

/-- The last character of a sign. -/
def lastChar : GlobSign → Char
  | literal c _ => c
  | oneOf _ _ => ']'
  | s => s.firstChar

end GlobSign

/-! ### Groups and double stars -/

/-- A group that is open: the branch around it, and its branches so far.  Branches list their shapes
from the last to the first. -/
structure OpenGroup where
  around : List Shape
  branches : List (List Shape)

/-- What a double star stands for at its place. -/
inductive StarMeaning where
  /-- Two plain stars. -/
  | plain
  /-- A shape of its own after the given branch, which takes the slash that follows if there is one. -/
  | dirs (branch : List Shape)

/-- The meaning of a double star after the branch `branch` and the character `before`, with the
character `next` after it.  It is special only as a whole component of a path. -/
def starMeaning (inGroup : Bool) (branch : List Shape) (before next : Option Char) : StarMeaning :=
  match branch with
  | [] =>
    if next = none ∨ next = some '/' then .dirs [.atom .leadingDirs] else .plain
  | last :: earlier =>
    let follows := before = some '/' || (inGroup && (before = some ',' || before = some '{'))
    let ends := next = none || (inGroup && (next = some ',' || next = some '}'))
    if follows && (ends || next = some '/') then
      if last = .atom .leadingDirs ∨ last = .atom .contents then .dirs (last :: earlier)
      else .dirs (.atom (if ends then .contents else .innerDirs) :: earlier)
    else .plain

/-- The shape of a finished branch. -/
def branchShape (branch : List Shape) : Shape := Shape.ofList branch.reverse

/-- The shape of a group from its branches, the last one first.  Branches that stand for nothing are
left out. -/
def groupShape (branches : List (List Shape)) : Shape :=
  Shape.ofChoices ((branches.reverse.filter (·.any (· ≠ .nothing))).map branchShape)

/-- Puts signs together to shapes, after the character `before` and inside the groups `groups`.  If
`skip` is set, the first sign belongs to what is read already. -/
def assemble (groups : List OpenGroup) (branch : List Shape) (before : Option Char) (skip : Bool) :
    List GlobSign → Except GlobProblem (List Shape)
  | [] => if groups.isEmpty then .ok branch.reverse else .error .unclosedGroup
  | sign :: rest =>
    let before' := some sign.lastChar
    if skip then assemble groups branch before' false rest
    else match sign with
    | .literal c _ => assemble groups (.atom (.literal c) :: branch) before' false rest
    | .question => assemble groups (.atom .anyByte :: branch) before' false rest
    | .star => assemble groups (.atom .anyBytes :: branch) before' false rest
    | .doubleStar =>
      let next := rest.head?.map (·.firstChar)
      match starMeaning (!groups.isEmpty) branch before next with
      | .plain =>
        assemble groups (.atom .anyBytes :: .atom .anyBytes :: branch) before' false rest
      | .dirs branch' => assemble groups branch' before' (next = some '/') rest
    | .oneOf negated ranges =>
      assemble groups (.atom (.oneOf negated ranges) :: branch) before' false rest
    | .openGroup => assemble (⟨branch, []⟩ :: groups) [] before' false rest
    | .closeGroup =>
      match groups with
      | [] => .error .unopenedGroup
      | g :: outer =>
        assemble outer (groupShape (branch :: g.branches) :: g.around) before' false rest
    | .comma =>
      match groups with
      | [] => assemble groups (.atom (.literal ',') :: branch) before' false rest
      | g :: outer =>
        assemble (⟨g.around, branch :: g.branches⟩ :: outer) [] before' false rest
    | .problem p => .error p

end KeywordFinder
