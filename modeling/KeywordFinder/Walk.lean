import KeywordFinder.Glob.Exclude
import KeywordFinder.Ignore.Level

/-!
# Walking a directory

A walk lists the files below a root that have one of the wanted extensions.  Links to directories are
not entered, except the root itself, and links to files count as files.  Entries that are excluded,
ignored or hidden are dropped, and a dropped directory is not entered.  A root that is a file is listed
whatever its extension.

The ignore rules are those of the directories and of their repositories.  The ignore file that a user
keeps for all repositories is left out, as if there were none.
-/

namespace KeywordFinder

/-- What a walk looks for and what it leaves out. -/
structure WalkOptions where
  /-- The wanted extensions, without a dot. -/
  extensions : List Text
  excludes : List Text
  honorIgnoreFiles : Bool
  skipHidden : Bool
  maxDepth : Option Nat
deriving DecidableEq, Repr

/-- A listed file. -/
structure WalkedFile where
  path : Path
  /-- The depth below the root, which is at depth zero. -/
  depth : Nat
deriving DecidableEq, Repr

/-- What a walk yields. -/
structure WalkResult where
  files : List WalkedFile := []
  /-- The number of files left out because of their extensions. -/
  skipped : Nat := 0
  /-- The number of entries that could not be read. -/
  errors : Nat := 0
deriving DecidableEq, Repr

/-- The number of files listed. -/
def WalkResult.found (r : WalkResult) : Nat := r.files.length

/-- The yields of two walks together. -/
def WalkResult.append (a b : WalkResult) : WalkResult :=
  ⟨a.files ++ b.files, a.skipped + b.skipped, a.errors + b.errors⟩

instance : Append WalkResult := ⟨WalkResult.append⟩

/-- A directory that a walk is in. -/
structure WalkPlace where
  /-- The path of the directory as it is shown. -/
  path : Path
  /-- The path below the root, empty for the root. -/
  relative : Path
  /-- The depth of the directory's entries. -/
  depth : Nat
  /-- The rules of the directory and of those above it, from the nearest on. -/
  levels : List IgnoreLevel

/-- A walk set up for a file system. -/
structure Walker where
  options : WalkOptions
  excluded : ExcludeSet
  files : FileSystem
  /-- Whether the root is inside a repository. -/
  insideRepository : Bool

namespace WalkOptions

/-- Whether a path has one of the wanted extensions. -/
def isWanted (o : WalkOptions) (p : Path) : Bool :=
  match (Path.extension? p).bind decode? with
  | some e => o.extensions.contains e
  | none => false

/-- The exclude set of a walk. -/
def excludeSet (o : WalkOptions) : ExcludeSet := .ofPatterns (expandExcludes o.excludes)

/-- The warnings about exclude patterns. -/
def warnings (o : WalkOptions) : List Text := ExcludeSet.warnings (expandExcludes o.excludes)

end WalkOptions

namespace Walker

/-- Whether entries at a depth are listed. -/
def reaches (w : Walker) (depth : Nat) : Bool :=
  match w.options.maxDepth with
  | some limit => depth ≤ limit
  | none => true

/-- Whether a name is hidden. -/
def isHidden (name : Bytes) : Bool := name.head? == some dot

/-- Whether an entry of a directory is left out. -/
def drops (w : Walker) (place : WalkPlace) (name : Bytes) (isDir : Bool) : Bool :=
  w.excluded.isMatch (Path.join place.relative name)
    || match IgnoreLevel.verdict? w.insideRepository place.levels (Path.join place.path name) isDir with
      | some .drop => true
      | some .keep => false
      | none => w.options.skipHidden && isHidden name

/-- The yield of one file. -/
def visit (w : Walker) (place : WalkPlace) (name : Bytes) : WalkResult :=
  let path := Path.join place.path name
  if !w.reaches place.depth || w.drops place name false then {}
  else if w.options.isWanted path then { files := [⟨path, place.depth⟩] }
  else { skipped := 1 }

/-- The rules that a directory adds. -/
def levelOf (w : Walker) (path : Path) : List IgnoreLevel :=
  if w.options.honorIgnoreFiles then [w.files.ignoreLevel path] else []

/-- The place of a directory inside another one. -/
def enter (w : Walker) (place : WalkPlace) (name : Bytes) : WalkPlace :=
  let path := Path.join place.path name
  { path
    relative := Path.join place.relative name
    depth := place.depth + 1
    levels := w.levelOf path ++ place.levels }

/-- Whether a link in a directory leads to a file. -/
def leadsToFile (w : Walker) (place : WalkPlace) (name : Bytes) : Bool :=
  w.files.isFile (Path.join place.path name)

/-- Walks the entries of a directory. -/
def walkListing (w : Walker) (place : WalkPlace) : Listing → WalkResult
  | .empty => {}
  | .file name _ rest => w.visit place name ++ w.walkListing place rest
  | .link name _ rest =>
    (if w.leadsToFile place name then w.visit place name else {}) ++ w.walkListing place rest
  | .dir name children rest =>
    (if w.drops place name true || !w.reaches place.depth then {}
      else w.walkListing (w.enter place name) children) ++ w.walkListing place rest

end Walker

namespace FileSystem

/-- The directories above the directory of the given names. -/
def directoriesAbove (names : List Bytes) : List Path :=
  (List.range names.length).map fun k => Path.ofNames (names.take k)

/-- Whether a path stands for standard input, which is not walked. -/
def isStandardInput (p : Path) : Bool := p.trimmed == bytes "-"

/-- Lists the files below a root. -/
def walk (fs : FileSystem) (o : WalkOptions) (root : Path) : WalkResult :=
  if isStandardInput root then {}
  else match fs.resolve root with
  | .error _ => { errors := 1 }
  | .ok names =>
    match fs.root.entryAt? names with
    | some (.dir children) =>
      let above := if o.honorIgnoreFiles then (directoriesAbove names).map fs.ignoreLevel else []
      let w : Walker := ⟨o, o.excludeSet, fs, above.any (·.isTop)⟩
      let flawed := above.any fun l => l.rules.isFlawed || l.excludeRules.isFlawed
      { errors := if flawed then 1 else 0 }
        ++ w.walkListing ⟨root, [], 1, w.levelOf root⟩ children
    | _ => { files := [⟨root, 0⟩] }

end FileSystem

end KeywordFinder
