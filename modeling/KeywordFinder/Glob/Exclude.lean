import KeywordFinder.Glob.Matching

/-!
# Exclude lists

An exclude pattern without a star names a file or a directory with all that is in it; one that ends with
a slash names only what is inside the directory.  Patterns that are no globs are left out with a
warning.
-/

namespace KeywordFinder

/-- Excludes match wildcards against slashes too. -/
def excludeStyle : GlobStyle := ⟨false, false⟩

/-- The globs that an exclude pattern stands for. -/
def expandExclude (p : Text) : List Text :=
  if p.getLast? = some '/' then [p ++ ['*', '*']]
  else if p.contains '*' then [p]
  else [p, p ++ ['/', '*', '*']]

/-- The globs that exclude patterns stand for. -/
def expandExcludes (patterns : List Text) : List Text := patterns.flatMap expandExclude

/-- The warning about a pattern that is no glob. -/
def globWarning (p : Text) (problem : GlobProblem) : Text :=
  "invalid exclude pattern ".toList ++ p ++ ": error parsing glob '".toList ++ p ++ "': ".toList
    ++ problem.message

/-- The globs that tell what is left out. -/
structure ExcludeSet where
  globs : List Glob

namespace ExcludeSet

/-- The globs among the given texts. -/
def ofPatterns (patterns : List Text) : ExcludeSet :=
  ⟨patterns.filterMap fun p => (Glob.parse excludeStyle p).toOption⟩

/-- The warnings about the given texts. -/
def warnings (patterns : List Text) : List Text :=
  patterns.filterMap fun p =>
    match Glob.parse excludeStyle p with
    | .ok _ => none
    | .error problem => some (globWarning p problem)

/-- Whether some glob of the set matches a path. -/
def isMatch (s : ExcludeSet) (path : Path) : Bool := s.globs.any (·.isMatch path)

end ExcludeSet

end KeywordFinder
