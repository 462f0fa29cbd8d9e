import KeywordFinder.Display.Palette
import KeywordFinder.Walk

/-!
# Settings

The settings of a configuration and how the command line changes them.  Extensions come to the walk in a
normal form, and exclude patterns of the command line are added to those of the configuration.
-/

namespace KeywordFinder

/-- The extension that is searched when no other is wanted. -/
def defaultExtension : Text := "py".toList

/-- Settings of matching and display. -/
structure SearchSettings where
  /-- Extensions as they are written, with or without a dot. -/
  extensions : List Text := [defaultExtension]
  ignoreCase : Bool := false
  color : Option ColorMode := none
deriving DecidableEq, Repr

/-- Settings of the walk. -/
structure WalkSettings where
  /-- Exclude patterns, relative to the root of the search. -/
  exclude : List Text := []
  gitignore : Bool := false
  skipHidden : Bool := false
  maxDepth : Option Nat := none
deriving DecidableEq, Repr

/-- A configuration. -/
structure Config where
  search : SearchSettings := {}
  walk : WalkSettings := {}
deriving DecidableEq, Repr

/-- A list without the elements that repeat the one before them. -/
def dropRepeats [DecidableEq α] : List α → List α
  | [] => []
  | [a] => [a]
  | a :: b :: l => if a = b then dropRepeats (b :: l) else a :: dropRepeats (b :: l)

/-- An extension without the blanks around it and then without the dots in front of it. -/
def normalizeExtension (e : Text) : Text := (trim e).dropWhile (· = '.')

/-- Extensions as a walk wants them; the default one if none is left. -/
def normalizeExtensions (l : List Text) : List Text :=
  match dropRepeats ((l.map normalizeExtension).filter (!·.isEmpty)) with
  | [] => [defaultExtension]
  | l => l

/-- Adds the elements of a list that are not there yet, in their order. -/
def addMissing [DecidableEq α] (l : List α) : List α → List α
  | [] => l
  | a :: more => if a ∈ l then addMissing l more else addMissing (l ++ [a]) more

/-- The walk of a configuration with the extensions and excludes of the command line. -/
def Config.walkOptions (c : Config) (extensions excludes : List Text) : WalkOptions where
  extensions := normalizeExtensions (if extensions.isEmpty then c.search.extensions else extensions)
  excludes := addMissing c.walk.exclude excludes
  honorIgnoreFiles := c.walk.gitignore
  skipHidden := c.walk.skipHidden
  maxDepth := c.walk.maxDepth

end KeywordFinder
