import KeywordFinder.Display.Palette
import KeywordFinder.Files.Path
import KeywordFinder.Line.Role

/-!
# Options

What a command line says, and the spellings of its options.  A flag stands alone and is given at most
once; a setting takes a value, and some settings are given any number of times.
-/

namespace KeywordFinder

/-- Options without a value. -/
inductive Flag where
  /-- Looks for one role, or for several if it is given for each of them. -/
  | only (role : Role)
  | ignoreCase
  | noColor
  | verbose
deriving DecidableEq, Repr

/-- Options with a value. -/
inductive Setting where
  | extension
  | exclude
  | color
  | config
deriving DecidableEq, Repr

/-- What an option is. -/
inductive Switch where
  | flag (f : Flag)
  | setting (s : Setting)
  | help
  | version
deriving DecidableEq, Repr

/-- The spellings of an option. -/
structure Spellings where
  switch : Switch
  short : List Char
  long : List String

/-- All options with their spellings. -/
def allSpellings : List Spellings := [
  ⟨.flag (.only .classDecl), ['c'], ["class"]⟩,
  ⟨.flag (.only .functionDecl), ['d'], ["def"]⟩,
  ⟨.flag (.only .assignment), ['v', 'a'], ["variable", "assign"]⟩,
  ⟨.flag (.only .otherUse), ['o'], ["other"]⟩,
  ⟨.flag .ignoreCase, ['i'], ["ignore-case", "ignorecase"]⟩,
  ⟨.flag .noColor, [], ["no-color"]⟩,
  ⟨.flag .verbose, [], ["verbose"]⟩,
  ⟨.setting .extension, ['e'], ["ext"]⟩,
  ⟨.setting .exclude, ['x'], ["exclude"]⟩,
  ⟨.setting .color, [], ["color"]⟩,
  ⟨.setting .config, ['C'], ["config"]⟩,
  ⟨.help, ['h'], ["help"]⟩,
  ⟨.version, ['V'], ["version"]⟩]

/-- The option of a letter. -/
def Switch.ofShort? (c : UInt8) : Option Switch :=
  (allSpellings.find? fun s => s.short.any fun d => encode [d] == [c]).map (·.switch)

/-- The option of a long name. -/
def Switch.ofLong? (name : Bytes) : Option Switch :=
  (allSpellings.find? fun s => s.long.any fun l => bytes l == name).map (·.switch)

/-- What a command line says. -/
structure Options where
  keyword : Text
  path : Path
  flags : List Flag
  extensions : List Text
  excludes : List Text
  color : Option ColorMode
  config : Option Path
deriving DecidableEq, Repr

namespace Options

/-- Whether a flag is given. -/
def has (o : Options) (f : Flag) : Bool := o.flags.contains f

/-- The roles asked for, in the order of precedence. -/
def roles (o : Options) : List Role := Role.all.filter fun r => o.has (.only r)

/-- The colour mode: declined colours come first, then the mode asked for, then the configured one. -/
def colorMode (o : Options) (configured : Option ColorMode) : ColorMode :=
  if o.has .noColor then .never else (o.color.or configured).getD .auto

end Options

end KeywordFinder
