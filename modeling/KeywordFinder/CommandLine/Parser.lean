import KeywordFinder.CommandLine.Options

/-!
# Reading command lines

Arguments are read from left to right.  The value of an option or argument is checked when the next
option or argument begins, or at the end; an argument that cannot be placed is reported at once.
-/

namespace KeywordFinder

/-- What is wrong with a command line. -/
inductive UsageProblem where
  | unknownArgument
  /-- An option that is given at most once is given again. -/
  | repeatedOption
  | invalidValue
  /-- A flag is given a value. -/
  | unexpectedValue
  | notText
  | missingKeyword
deriving DecidableEq, Repr

/-- Why there is nothing to search for. -/
inductive Stop where
  | help
  | version
  | problem (p : UsageProblem)
deriving DecidableEq, Repr

namespace CommandLine

/-- What an argument still waits to be given or checked. -/
inductive Pending where
  | nothing
  /-- A setting without its value. -/
  | awaits (s : Setting)
  | value (s : Setting) (v : Bytes)
  | keyword (v : Bytes)
  | path (v : Bytes)
deriving DecidableEq, Repr

/-- What the arguments so far say, values that are pending apart. -/
structure Given where
  flags : List Flag := []
  extensions : List Text := []
  excludes : List Text := []
  color : Option ColorMode := none
  config : Option Path := none
  keyword : Option Text := none
  path : Option Path := none
deriving DecidableEq, Repr

/-- How far a command line is read. -/
structure State where
  given : Given := {}
  pending : Pending := .nothing
  /-- The number of arguments that are no options. -/
  positionals : Nat := 0
  /-- Whether all further arguments are no options. -/
  optionsEnded : Bool := false
deriving DecidableEq, Repr

/-- Stops at a problem. -/
def fail {α : Type} (p : UsageProblem) : Except Stop α := .error (.problem p)

/-- The text of a value. -/
def textValue (v : Bytes) : Except Stop Text :=
  match decode? v with
  | some s => .ok s
  | none => fail .notText

/-- A value that is a path. -/
def pathValue (v : Bytes) : Except Stop Path :=
  if v.isEmpty then fail .invalidValue else .ok v

/-- The colour mode of a value. -/
def colorValue (v : Bytes) : Except Stop ColorMode :=
  match (decode? v).bind fun s => ColorMode.ofName? (String.ofList s) with
  | some m => .ok m
  | none => fail .invalidValue

/-- Takes the value of a setting. -/
def setValue (g : Given) (s : Setting) (v : Bytes) : Except Stop Given :=
  match s with
  | .extension => do return { g with extensions := g.extensions ++ [← textValue v] }
  | .exclude => do return { g with excludes := g.excludes ++ [← textValue v] }
  | .color =>
    if g.color.isSome then fail .repeatedOption
    else do return { g with color := some (← colorValue v) }
  | .config =>
    if g.config.isSome then fail .repeatedOption
    else do return { g with config := some (← pathValue v) }

/-- Checks what is pending. -/
def settle (g : Given) : Pending → Except Stop Given
  | .nothing => .ok g
  | .awaits _ => fail .invalidValue
  | .value s v => setValue g s v
  | .keyword v => do return { g with keyword := some (← textValue v) }
  | .path v => do return { g with path := some (← pathValue v) }

/-- Takes an option without a value. -/
def takeSwitch (st : State) (s : Switch) : Except Stop State := do
  let g ← settle st.given st.pending
  match s with
  | .flag f =>
    if g.flags.contains f then fail .repeatedOption
    else return { st with given := { g with flags := g.flags ++ [f] }, pending := .nothing }
  | .setting s => return { st with given := g, pending := .awaits s }
  | .help => .error .help
  | .version => .error .version

/-- Takes a setting with the value attached to it. -/
def takeAttached (st : State) (s : Setting) (v : Bytes) : Except Stop State := do
  let g ← settle st.given st.pending
  return { st with given := ← setValue g s v, pending := .nothing }

/-- The byte in front of options. -/
def hyphen : UInt8 := 0x2D

/-- The byte between an option and its value. -/
def equalsSign : UInt8 := 0x3D

/-- Takes a long option, after its hyphens. -/
def takeLong (st : State) (a : Bytes) : Except Stop State :=
  let name := a.takeWhile (· ≠ equalsSign)
  match Switch.ofLong? name, a.drop name.length with
  | none, _ => fail .unknownArgument
  | some s, [] => takeSwitch st s
  | some (.setting s), _ :: v => takeAttached st s v
  | some _, _ :: _ => fail .unexpectedValue

/-- Takes the letters after a hyphen.  What follows the letter of a setting is its value. -/
def takeLetters (st : State) : Bytes → Except Stop State
  | [] => .ok st
  | c :: rest =>
    match Switch.ofShort? c with
    | none => fail .unknownArgument
    | some (.setting s) =>
      match rest with
      | [] => takeSwitch st (.setting s)
      | d :: v => takeAttached st s (if d = equalsSign then v else d :: v)
    | some s => do takeLetters (← takeSwitch st s) rest

/-- Takes an argument that is no option. -/
def takePositional (st : State) (a : Bytes) : Except Stop State :=
  if st.positionals ≥ 2 then fail .unknownArgument
  else do
    let g ← settle st.given st.pending
    return { st with
      given := g
      pending := if st.positionals = 0 then .keyword a else .path a
      positionals := st.positionals + 1 }

/-- Takes an argument. -/
def takeArgument (st : State) (a : Bytes) : Except Stop State :=
  if st.optionsEnded then takePositional st a
  else match a with
  | [0x2D, 0x2D] => .ok { st with optionsEnded := true }
  | 0x2D :: 0x2D :: name => takeLong st name
  | 0x2D :: c :: letters => takeLetters st (c :: letters)
  | a =>
    match st.pending with
    | .awaits s => .ok { st with pending := .value s a }
    | _ => takePositional st a

/-- Checks the end of a command line and fills in what it leaves out.  `config` is the configuration
that the environment names. -/
def finish (st : State) (config : Option Bytes) : Except Stop Options := do
  let g ← settle st.given st.pending
  let config ← match g.config, config with
    | some p, _ => pure (some p)
    | none, some v => some <$> pathValue v
    | none, none => pure none
  match g.keyword with
  | none => fail .missingKeyword
  | some keyword => return {
      keyword
      path := g.path.getD [dot]
      flags := g.flags
      extensions := g.extensions
      excludes := g.excludes
      color := g.color
      config }

/-- Reads a command line without the name of the program. -/
def parse (args : List Bytes) (config : Option Bytes) : Except Stop Options := do
  finish (← args.foldlM takeArgument {}) config

end CommandLine

end KeywordFinder
