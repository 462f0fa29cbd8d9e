import KeywordFinder.Files.Tree

/-!
# Finding the configuration

A configuration is looked for in the directory of the search and then in the directories above it.  The
nearest one counts, and the search ends at the top of a repository.
-/

namespace KeywordFinder

/-- The name of configuration files. -/
def configName : Bytes := bytes "findit.toml"

namespace FileSystem

/-- The first configuration in a list of directories, none of which but the last looked at is the top of
a repository. -/
def firstConfig? (fs : FileSystem) : List Path → Option Path
  | [] => none
  | d :: above =>
    let config := Path.join d configName
    if fs.isFile config then some config
    else if fs.pathExists (Path.join d (bytes ".git")) then none
    else fs.firstConfig? above

/-- The directory in which the search for a configuration starts. -/
def configStart? (fs : FileSystem) (start : Path) : Option Path :=
  if fs.isFile start then Path.parent? start else some start

/-- The configuration for a search that starts at a path. -/
def findConfig? (fs : FileSystem) (start : Path) : Option Path :=
  (fs.configStart? start).bind fun d => fs.firstConfig? (Path.ancestors d)

end FileSystem

end KeywordFinder
