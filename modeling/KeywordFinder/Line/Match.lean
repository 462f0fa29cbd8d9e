import KeywordFinder.Line.Role
import KeywordFinder.Text.Blank
import KeywordFinder.Text.CaseFold
import KeywordFinder.Text.WordChar

/-!
# Matches of one role

A line matches a role when it splits into the parts of that role's form.  The parts that are not empty
are the fragments of the match: put together again they are the line, and one of them is the keyword.
-/

namespace KeywordFinder

/-- What is searched for: a keyword, literally or up to case. -/
structure Keyword where
  text : Text
  ignoreCase : Bool
deriving DecidableEq, Repr

/-- A line split around the keyword. -/
structure Match where
  role : Role
  fragments : List Text
  /-- The place of the keyword among the fragments. -/
  keywordIndex : Nat
deriving DecidableEq, Repr

/-- The match of a role with the given parts before the keyword, the matched text and the parts after
it.  Empty parts are left out. -/
def Match.ofParts (role : Role) (before : List Text) (found : Text) (after : List Text) : Match where
  role
  fragments := (before ++ found :: after).filter (!·.isEmpty)
  keywordIndex := if found.isEmpty then 0 else (before.filter (!·.isEmpty)).length

/-- Takes characters equal to `keyword` off the front of a text: the characters taken and the rest. -/
def takeWord? (ignoreCase : Bool) : (keyword text : Text) → Option (Text × Text)
  | [], s => some ([], s)
  | _ :: _, [] => none
  | k :: ks, c :: s =>
    if sameChar ignoreCase k c then (takeWord? ignoreCase ks s).map fun p => (c :: p.1, p.2)
    else none

/-- Takes the keyword off the front of a text. -/
def Keyword.take? (k : Keyword) (s : Text) : Option (Text × Text) := takeWord? k.ignoreCase k.text s

/-- Whether a line is a comment for this search: a number sign anywhere makes it one. -/
def isCommentLine (line : Text) : Bool := line.contains '#'

/-! ### Declarations -/

/-- Whether `tail` can follow the name in a declaration: blanks, an opening parenthesis, and no line
break after it. -/
def opensParameters (tail : Text) : Bool :=
  match trimStart tail with
  | '(' :: rest => !rest.contains '\n'
  | _ => false

/-- The declared name at the front of a text: the characters of the keyword and the rest. -/
def declaredName? (k : Keyword) (s : Text) : Option (Text × Text) :=
  (k.take? s).filter fun p => opensParameters p.2

/-- The match of a declaration introduced by `word`, which blanks set apart from the name. -/
def declaration? (role : Role) (word : Text) (k : Keyword) (line : Text) : Option Match := do
  let (_, rest) ← takeWord? false word (trimStart line)
  let (gap, found, tail) ← skipBlanks? (declaredName? k) rest
  guard !gap.isEmpty
  return .ofParts role [line.takeWhile isBlank, word, gap] found [tail]

/-! ### Assignments -/

/-- Whether `value` can follow the sign of an assignment: it does not make the sign a comparison, and
it ends with the line. -/
def isValue : Text → Bool
  | [] => true
  | c :: rest => c != '=' && !rest.contains '\n'

/-- The assignment at the front of a text: the characters of the keyword, the blanks before the sign, and
the value after it. -/
def assigned? (k : Keyword) (s : Text) : Option (Text × Text × Text) := do
  let (found, tail) ← k.take? s
  match trimStart tail with
  | '=' :: value =>
    guard (isValue value)
    return (found, tail.takeWhile isBlank, value)
  | _ => none

/-- The match of an assignment to the keyword. -/
def assignment? (k : Keyword) (line : Text) : Option Match := do
  let (indent, found, gap, value) ← skipBlanks? (assigned? k) line
  return .ofParts .assignment [indent] found [gap, ['='], value]

/-! ### Other uses -/

/-- The characters that may stand right before a use of the keyword. -/
def isUseBoundary (c : Char) : Bool := isBlank c || ['(', '[', '.', ','].contains c

/-- Whether `tail` can follow a use: it goes on neither with the name nor with an assignment. -/
def endsUse (tail : Text) : Bool :=
  match trimStart tail with
  | [] => true
  | c :: _ => c != '=' && !isWordChar c

/-- A use of the keyword at the front of a text: the text matched and the rest. -/
def useAt? (k : Keyword) (s : Text) : Option (Text × Text) :=
  (k.take? s).filter fun p => endsUse p.2

/-- The last use in a text, with what stands before it.  A use may start at the front of the text only
if `boundary` is set, and elsewhere only after a boundary character. -/
def lastUse? (k : Keyword) (boundary : Bool) : Text → Option (Text × Text × Text)
  | [] => none
  | c :: s =>
    match lastUse? k (isUseBoundary c) s with
    | some (before, found, tail) => some (c :: before, found, tail)
    | none => if boundary then (useAt? k (c :: s)).map fun p => ([], p.1, p.2) else none

/-- Whether a line starts in its first column like a declaration. -/
def startsDeclaration (line : Text) : Bool :=
  "class".toList.isPrefixOf line || "def".toList.isPrefixOf line

/-- The match of a use that is neither a declaration nor an assignment. -/
def otherUse? (k : Keyword) (line : Text) : Option Match := do
  guard !startsDeclaration line
  let (before, found, tail) ← lastUse? k false line
  return {
    role := .otherUse
    fragments := before :: found :: if tail.isEmpty then [] else [tail]
    keywordIndex := 1 }

/-! ### All roles -/

/-- The match of a line in one role. -/
def Role.match? (role : Role) (k : Keyword) (line : Text) : Option Match := do
  guard !isCommentLine line
  match role with
  | .classDecl => declaration? .classDecl "class".toList k line
  | .functionDecl => declaration? .functionDecl "def".toList k line
  | .assignment => assignment? k line
  | .otherUse => otherUse? k line

end KeywordFinder
