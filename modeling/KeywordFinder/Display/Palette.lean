import KeywordFinder.Text.Blank

/-!
# Colours

The display sets off two kinds of fragments, and a palette says which marks it writes around them.
-/

namespace KeywordFinder

/-- When the output is coloured. -/
inductive ColorMode where
  | auto
  | always
  | never
deriving DecidableEq, Repr

namespace ColorMode

/-- The name of a mode, as it is given on the command line and in configurations. -/
def name : ColorMode → String
  | auto => "auto"
  | always => "always"
  | never => "never"

/-- The mode of a name. -/
def ofName? (s : String) : Option ColorMode := [auto, always, never].find? (·.name == s)

/-- Whether to colour: in automatic mode only on a terminal, and never if colours are declined. -/
def isOn (mode : ColorMode) (declined isTerminal : Bool) : Bool :=
  match mode with
  | auto => !declined && isTerminal
  | always => true
  | never => false

end ColorMode

/-- What is written before and after a fragment. -/
structure Marks where
  before : Text
  after : Text
deriving DecidableEq, Repr

/-- The marks of the keyword, and those of structural words and signs. -/
structure Palette where
  found : Marks
  structural : Marks
deriving DecidableEq, Repr

/-- The terminal command with the given parameter. -/
def escape (parameter : Text) : Text := ['\x1b', '['] ++ parameter ++ ['m']

/-- Marks for bold text in the colour of the given parameter. -/
def Marks.bold (color : Text) : Marks :=
  ⟨escape ['1'] ++ escape color, escape ['0']⟩

namespace Palette

/-- A palette that writes no marks. -/
def plain : Palette := ⟨⟨[], []⟩, ⟨[], []⟩⟩

/-- The keyword in bold green, structure in bold red. -/
def colored : Palette := ⟨.bold ['3', '2'], .bold ['3', '1']⟩

/-- The palette for a decision on colour. -/
def ofDecision (on : Bool) : Palette := if on then colored else plain

end Palette

end KeywordFinder
