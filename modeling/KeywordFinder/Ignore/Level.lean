import KeywordFinder.Files.Tree
import KeywordFinder.Ignore.Rule

/-!
# Ignore rules along a walk

Each directory that a walk enters contributes a level of rules.  For an entry the nearest level with a
deciding rule counts, levels above a repository's top directory do not, and the rules of `.gitignore`
files go before those of a repository's own exclude file.

The ignore file that a user keeps for all repositories, whose rules would come last, is left out.  It
lies outside the tree, and its place depends on the user's settings.
-/

namespace KeywordFinder

/-- The rules that a directory contributes. -/
structure IgnoreLevel where
  /-- The path of the directory as the walk shows it. -/
  path : Path
  rules : IgnoreFile
  /-- The rules of the repository's own exclude file. -/
  excludeRules : IgnoreFile
  /-- Whether the directory is the top of a repository. -/
  isTop : Bool
deriving DecidableEq, Repr

namespace IgnoreLevel

/-- A path without the mark of the current directory in front. -/
def withoutDotSlash (p : Path) : Path := (stripFront? [dot, slash] p).getD p

/-- A path as the rules of a directory see it: without the directory's own path in front.  Paths of one
component stay as they are, and so do all paths below the directory `.`. -/
def relativeTo (directory p : Path) : Path :=
  let base := withoutDotSlash directory
  let p := withoutDotSlash p
  if base = [dot] ∨ !p.contains slash then p
  else match stripFront? base p with
    | some rest => (stripFront? [slash] rest).getD rest
    | none => p

/-- What the rules of one file say of an entry, if there are any. -/
def fileVerdict? (level : IgnoreLevel) (f : IgnoreFile) (p : Path) (isDir : Bool) : Option Verdict :=
  f.verdict? (relativeTo level.path p) isDir

/-- The levels up to the first top directory of a repository, from the nearest on. -/
def withinRepository : List IgnoreLevel → List IgnoreLevel
  | [] => []
  | level :: above => if level.isTop then [level] else level :: withinRepository above

/-- What the levels, from the nearest on, say of an entry.  Rules count only inside a repository;
`inside` says whether the walk starts in one. -/
def verdict? (inside : Bool) (levels : List IgnoreLevel) (p : Path) (isDir : Bool) : Option Verdict :=
  if inside || levels.any (·.isTop) then
    let near := withinRepository levels
    let p := withoutDotSlash p
    (near.findSome? fun level => level.fileVerdict? level.rules p isDir).or
      (near.findSome? fun level => level.fileVerdict? level.excludeRules p isDir)
  else none

end IgnoreLevel

namespace FileSystem

/-- The name of ignore files. -/
def ignoreFileName : Bytes := bytes ".gitignore"

/-- The name of the directory, or of the file, that a repository keeps its data in. -/
def repositoryName : Bytes := bytes ".git"

/-- Whether a directory is the top of a repository. -/
def isRepositoryTop (fs : FileSystem) (directory : Path) : Bool :=
  fs.pathExists (Path.join directory repositoryName)
    || fs.pathExists (Path.join directory (bytes ".jj"))

/-- The ignore file at a path, without rules if it cannot be read. -/
def ignoreFile (fs : FileSystem) (p : Path) : IgnoreFile :=
  match fs.read p with
  | .ok content => .parse content
  | .error _ => .empty

/-- The text of the first line of a file. -/
def firstLine? (fs : FileSystem) (p : Path) : Option Text := do
  let content ← (fs.read p).toOption
  let line ← (feedLines content).head?
  decode? line

/-- The directory of a repository's data.  A file in its place names a directory, and that one names
the directory shared by all working trees. -/
def repositoryData? (fs : FileSystem) (directory : Path) : Option Path :=
  let data := Path.join directory repositoryName
  if fs.isFile data then do
    let line ← fs.firstLine? data
    guard ("gitdir: ".toList.isPrefixOf line)
    let own := encode (line.drop "gitdir: ".length)
    let shared ← fs.firstLine? (Path.join own (bytes "commondir"))
    return if shared.head? = some '.' then Path.join own (encode shared) else encode shared
  else some data

/-- The level of rules of a directory. -/
def ignoreLevel (fs : FileSystem) (directory : Path) : IgnoreLevel where
  path := directory
  rules := fs.ignoreFile (Path.join directory ignoreFileName)
  excludeRules :=
    match fs.repositoryData? directory with
    | some data => fs.ignoreFile (Path.join data (bytes "info/exclude"))
    | none => .empty
  isTop := fs.isRepositoryTop directory

end FileSystem

end KeywordFinder
