import KeywordFinder.Glob.Matching
import KeywordFinder.Text.Feeds

/-!
# Ignore rules

An ignore file holds one rule a line.  A rule names entries by a glob and either drops or keeps them,
and the last rule of a file that names an entry decides.  Lines whose glob cannot be read hold no rule.
-/

namespace KeywordFinder

/-- What rules say of an entry. -/
inductive Verdict where
  | drop
  | keep
deriving DecidableEq, Repr

/-- A rule of an ignore file. -/
structure IgnoreRule where
  glob : Glob
  verdict : Verdict
  /-- Whether the rule is about directories alone. -/
  dirsOnly : Bool
deriving DecidableEq, Repr

/-- Ignore rules match wildcards within one name. -/
def ignoreStyle : GlobStyle := ⟨true, true⟩

namespace IgnoreRule

/-- What a line says before its glob is read: the glob, whether it drops or keeps, and whether it is
about directories alone. -/
structure Written where
  glob : Text
  verdict : Verdict
  dirsOnly : Bool

/-- The line without the marks in front of it: the rest, the verdict, and whether the rule holds only
from the directory of its file. -/
def stripMarks (line : Text) : Text × Verdict × Bool :=
  match line with
  | '\\' :: '!' :: s => ('!' :: s, .drop, false)
  | '\\' :: '#' :: s => ('#' :: s, .drop, false)
  | '!' :: '/' :: s => (s, .keep, true)
  | '!' :: s => (s, .keep, false)
  | '/' :: s => (s, .drop, true)
  | s => (s, .drop, false)

/-- The line without the slash that restricts it to directories, and whether it had one.  A backslash
before that slash goes with it. -/
def stripDirMark (line : Text) : Text × Bool :=
  match line.reverse with
  | '/' :: '\\' :: r => (r.reverse, true)
  | '/' :: r => (r.reverse, true)
  | _ => (line, false)

/-- The glob of a rule: it holds at any depth unless it is anchored or has a slash, and one that ends
with any directories names only what is inside them. -/
def globText (anchored : Bool) (s : Text) : Text :=
  let s := if anchored || s.contains '/' || s = ['*', '*'] then s else ['*', '*', '/'] ++ s
  if ['/', '*', '*'].isSuffixOf s then s ++ ['/', '*'] else s

/-- Reads a line that is neither blank nor a comment. -/
def written (line : Text) : Written :=
  let (s, verdict, anchored) := stripMarks line
  let (s, dirsOnly) := stripDirMark s
  ⟨globText anchored s, verdict, dirsOnly⟩

/-- The part of a line that counts: blanks at its end do so only after a backslash and one space. -/
def significant (line : Text) : Text :=
  if ['\\', ' '].isSuffixOf line then line else trimEnd line

/-- The rule of a line, or the problem of its glob.  Comments and blank lines have neither. -/
def parse? (line : Text) : Option (Except GlobProblem IgnoreRule) :=
  let s := significant line
  if line.head? = some '#' || s.isEmpty then none
  else
    let w := written s
    some ((Glob.parse ignoreStyle w.glob).map (⟨·, w.verdict, w.dirsOnly⟩))

/-- Whether a rule names an entry. -/
def names (r : IgnoreRule) (path : Path) (isDir : Bool) : Bool :=
  (!r.dirsOnly || isDir) && r.glob.isMatch path

end IgnoreRule

/-- The rules of an ignore file. -/
structure IgnoreFile where
  rules : List IgnoreRule
  /-- Whether the glob of some line cannot be read. -/
  isFlawed : Bool
deriving DecidableEq, Repr

namespace IgnoreFile

/-- A file without rules. -/
def empty : IgnoreFile := ⟨[], false⟩

/-- The character that may mark the start of a text. -/
def byteOrderMark : Char := Char.ofNat 0xFEFF

/-- The texts of the lines before the first that is not valid UTF-8. -/
def textLines (content : Bytes) : List Text :=
  ((feedLines content).map decode?).takeWhile (·.isSome) |>.filterMap id

/-- Reads an ignore file. -/
def parse (content : Bytes) : IgnoreFile :=
  let lines := match textLines content with
    | first :: rest => first.dropWhile (· = byteOrderMark) :: rest
    | [] => []
  let read := lines.filterMap IgnoreRule.parse?
  ⟨read.filterMap (·.toOption), read.any (!·.toBool)⟩

/-- What the rules of a file say of an entry, if they name it. -/
def verdict? (f : IgnoreFile) (path : Path) (isDir : Bool) : Option Verdict :=
  (f.rules.reverse.find? (·.names path isDir)).map (·.verdict)

end IgnoreFile

end KeywordFinder
