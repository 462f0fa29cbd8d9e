import KeywordFinder.CommandLine.Help
import KeywordFinder.Search

/-!
# The program

Copies the part of the disk that a search can reach into a file tree, runs the search on it and prints
what comes of it.
-/

namespace KeywordFinder

/-- The bytes of an array. -/
private def contentOf (a : ByteArray) : Bytes := a.toList

/-- The names of an absolute path. -/
private def namesOf (p : String) : List Bytes :=
  (Path.components (bytes p)).filter fun c => c ≠ [] ∧ c ≠ [dot]

/-- Adds what is at an absolute path, with everything below it if `deep` is set.  What cannot be read is
left out. -/
private partial def copy (deep : Bool) (p : String) (tree : Listing) : IO Listing := do
  try
    let place := (← IO.currentDir) / p
    match (← place.symlinkMetadata).type with
    | .file => return tree.add (namesOf p) (.file (contentOf (← IO.FS.readBinFile p)))
    | .symlink =>
      let target := (← IO.FS.realPath p).toString
      let tree := tree.add (namesOf p) (.link (bytes target))
      if ← ((← IO.currentDir) / target).isDir then return tree.add (namesOf target) (.dir .empty)
      else copy false target tree
    | .dir =>
      let tree := tree.add (namesOf p) (.dir .empty)
      if deep then
        (← place.readDir).toList.foldlM (fun tree e => copy true (p ++ "/" ++ e.fileName) tree) tree
      else return tree
    | .other => return tree
  catch _ => return tree

/-- Adds the files beside a search that bear on it, in the directory at an absolute path. -/
private def copyMarks (p : String) (tree : Listing) : IO Listing :=
  ["findit.toml", ".gitignore", ".git", ".git/info", ".git/info/exclude", ".jj"].foldlM
    (fun tree name => copy false (p ++ "/" ++ name) tree) tree

/-- Adds what a path passes through and what it leads to. -/
private def copyAlong (start p : String) (tree : Listing) : IO Listing := do
  let mut tree := tree
  let mut here := if p.startsWith "/" then "/" else start
  try
    for part in p.splitOn "/" do
      let next := here ++ "/" ++ part
      if part ≠ "" ∧ part ≠ "." ∧ part ≠ ".." then tree ← copy false next tree
      here := (← IO.FS.realPath next).toString
    let mut above := ""
    for part in here.splitOn "/" do
      above := if part.isEmpty then above else above ++ "/" ++ part
      tree ← copyMarks above (← copy false above tree)
    copy true here tree
  catch _ => return tree

/-- Prints lines to the standard output, each at once. -/
private def printLines (lines : List String) : IO Unit := do
  let out ← IO.getStdout
  for l in lines do
    out.putStrLn l
    out.flush

/-- The bytes of an environment variable. -/
private def environmentValue (name : String) : IO (Option Bytes) :=
  return (← IO.getEnv name).map bytes

/-- Prints what comes of a command line and gives the exit status. -/
private def printResult : ProgramResult → IO ExitStatus
  | .help => do
    printLines helpLines
    return .success
  | .version => do
    printLines [String.ofList versionLine]
    return .success
  | .misuse p => do
    for l in p.report do IO.eprintln l
    return .usage
  | .search output diagnostics status => do
    try printLines (output.map String.ofList)
    catch e => match e with
      | .resourceVanished _ _ => return .success
      | e =>
        IO.eprintln s!"error: {e}"
        return .error
    for l in diagnostics do IO.eprintln (String.ofList l)
    return status

/-- Runs a command line on the disk. -/
def runOnDisk (args : List String) : IO ExitStatus := do
  let start := (← IO.currentDir).toString
  let config ← environmentValue "FINDIT_CONFIG"
  let mut tree := Listing.add (namesOf start) (.dir .empty) .empty
  if let .ok o := CommandLine.parse (args.map bytes) config then
    for p in o.path :: o.config.toList do
      tree ← copyAlong start (String.ofList (decodeLossy p)) tree
  printResult (runProgram {
    files := ⟨tree, namesOf start⟩
    config
    logFilter := ← environmentValue "FINDIT_LOG"
    declinesColor := (← environmentValue "NO_COLOR").isSome
    isTerminal := ← (← IO.getStdout).isTty } (args.map bytes))

end KeywordFinder

/-- Runs the program. -/
def main (args : List String) : IO UInt32 :=
  return UInt32.ofNat (← KeywordFinder.runOnDisk args).code
