import KeywordFinder.Config.Settings
import KeywordFinder.Failure
import KeywordFinder.Files.Tree
import KeywordFinder.Toml.Parser

/-!
# Reading configurations

A configuration is a TOML document with the tables `search` and `walk`.  Keys that have no meaning are
refused, and those that are missing take their defaults.  A table may also be written as an array of its
values in order.
-/

namespace KeywordFinder

/-- Reads the setting of one key into a record, or refuses the key or its value. -/
abbrev KeyReader (α : Type) := α → (key : Text) → Toml → Option α

namespace Toml

/-- The items of an array of strings. -/
def strings? : Toml → Option (List Text)
  | array _ items => items.mapM fun
    | string s => some s
    | _ => none
  | _ => none

/-- A truth value. -/
def boolean? : Toml → Option Bool
  | boolean b => some b
  | _ => none

/-- A number of at most 64 bits without a sign. -/
def natural? : Toml → Option Nat
  | integer n => if 0 ≤ n ∧ n ≤ 0xFFFFFFFFFFFFFFFF then some n.toNat else none
  | _ => none

/-- The name of a variant: a string, or the only key of a table that holds an empty value. -/
def variant? : Toml → Option Text
  | string s => some s
  | table _ [(key, array _ [])] => some key
  | table _ [(key, table _ [])] => some key
  | _ => none

/-- Reads a record from a table, or from an array with the values of the given keys in order. -/
def record? (keys : List Text) (read : KeyReader α) (initial : α) : Toml → Option α
  | table _ entries => entries.foldlM (fun r e => read r e.1 e.2) initial
  | array _ items => (keys.zip items).foldlM (fun r e => read r e.1 e.2) initial
  | _ => none

end Toml

namespace SearchSettings

/-- The keys of the table, in order. -/
def keys : List Text := ["extensions", "ignore_case", "color"].map (·.toList)

/-- Reads one key of the table. -/
def readKey : KeyReader SearchSettings := fun r key v =>
  match String.ofList key with
  | "extensions" => v.strings?.map fun l => { r with extensions := l }
  | "ignore_case" => v.boolean?.map fun b => { r with ignoreCase := b }
  | "color" => do
    let mode ← ColorMode.ofName? (String.ofList (← v.variant?))
    return { r with color := some mode }
  | _ => none

end SearchSettings

namespace WalkSettings

/-- The keys of the table, in order. -/
def keys : List Text := ["exclude", "gitignore", "skip_hidden", "max_depth"].map (·.toList)

/-- Reads one key of the table. -/
def readKey : KeyReader WalkSettings := fun r key v =>
  match String.ofList key with
  | "exclude" => v.strings?.map fun l => { r with exclude := l }
  | "gitignore" => v.boolean?.map fun b => { r with gitignore := b }
  | "skip_hidden" => v.boolean?.map fun b => { r with skipHidden := b }
  | "max_depth" => v.natural?.map fun n => { r with maxDepth := some n }
  | _ => none

end WalkSettings

namespace Config

/-- Reads one of the tables. -/
def readKey : KeyReader Config := fun c key v =>
  match String.ofList key with
  | "search" => (v.record? SearchSettings.keys SearchSettings.readKey {}).map fun s =>
    { c with search := s }
  | "walk" => (v.record? WalkSettings.keys WalkSettings.readKey {}).map fun w =>
    { c with walk := w }
  | _ => none

/-- Reads a configuration from the text of a document. -/
def parse? (s : Text) : Option Config := do
  let entries ← Toml.parse? s
  entries.foldlM (fun c e => readKey c e.1 e.2) {}

/-- Reads the configuration of a file.  The report of the parser, which says where a document is refused
and why, is left out: only its first words are given as the reason. -/
def ofContent (path : Path) (s : Text) : Except Failure Config :=
  match parse? s with
  | some c => .ok c
  | none => .error (.invalidConfig path "TOML parse error".toList)

/-- Reads the configuration at a path. -/
def load (fs : FileSystem) (path : Path) : Except Failure Config :=
  match fs.read path with
  | .error f => .error (.unreadableConfig path (.system f))
  | .ok content =>
    match decode? content with
    | none => .error (.unreadableConfig path .notText)
    | some s => ofContent path s

end Config

end KeywordFinder
