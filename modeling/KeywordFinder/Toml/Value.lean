import KeywordFinder.Text.Blank

/-!
# TOML values

A document is a table.  Tables remember how they came to be, because that decides what may be added to
them later: a table is written out once, under a header, by dotted keys or inline.
-/

namespace KeywordFinder

/-- How a table came to be. -/
inductive TableOrigin where
  /-- Between braces; nothing can be added. -/
  | inline
  /-- Above a table with a header of its own. -/
  | implied
  | header
  | dotted
deriving DecidableEq, Repr

/-- A TOML value.  Numbers with a fraction, dates and times are kept as they are written. -/
inductive Toml where
  | string (s : Text)
  | integer (n : Int)
  /-- What is written like an integer, with digits that make none. -/
  | malformed (literal : Text)
  | float (literal : Text)
  | boolean (b : Bool)
  | dateTime (literal : Text)
  /-- An array, between brackets or of tables with headers. -/
  | array (ofHeaders : Bool) (items : List Toml)
  | table (origin : TableOrigin) (entries : List (Text × Toml))

namespace Toml

/-- The entries of a table. -/
abbrev Entries := List (Text × Toml)

namespace Entries

/-- The value of a key. -/
def get? (key : Text) (t : Entries) : Option Toml := t.lookup key

/-- Gives a key the value, in its old place or at the end. -/
def put (key : Text) (v : Toml) : Entries → Entries
  | [] => [(key, v)]
  | (k, w) :: t => if k = key then (key, v) :: t else (k, w) :: put key v t

/-- Changes the table at a path of keys, and makes the tables on the way that are missing.  Dotted keys
go only through tables without a header; nothing goes through inline tables and plain arrays, and a path
goes on in the latest table of an array. -/
def alter (dotted : Bool) (f : TableOrigin → Entries → Option Entries) :
    (path : List Text) → TableOrigin → Entries → Option Entries
  | [], origin, t => f origin t
  | k :: path, _, t =>
    match t.get? k with
    | none => do
      let origin := if dotted then TableOrigin.dotted else .implied
      let inner ← alter dotted f path origin []
      return t.put k (.table origin inner)
    | some (.table origin inner) =>
      if origin = .inline ∨ (dotted ∧ origin = .header) then none
      else do
        let inner ← alter dotted f path origin inner
        return t.put k (.table origin inner)
    | some (.array true items) =>
      match items.getLast? with
      | some (.table origin inner) => do
        let inner ← alter dotted f path origin inner
        return t.put k (.array true (items.dropLast ++ [.table origin inner]))
      | _ => none
    | some _ => none

/-- Adds a key that is not there yet. -/
def insertNew? (key : Text) (v : Toml) (t : Entries) : Option Entries :=
  if (t.get? key).isSome then none else some (t.put key v)

/-- Adds the value of a dotted key, given by the keys before its last one.  A table that dotted keys
made takes only dotted keys, and any other table none of them. -/
def assign? (path : List Text) (key : Text) (v : Toml) : TableOrigin → Entries → Option Entries :=
  alter true (fun origin t =>
    if path.isEmpty = decide (origin = .dotted) then none else insertNew? key v t) path

/-- Opens the table of a header. -/
def openTable? (path : List Text) (key : Text) (t : Entries) : Option Entries :=
  alter false (fun _ t =>
    match t.get? key with
    | none => some (t.put key (.table .header []))
    | some (.table .implied inner) => some (t.put key (.table .header inner))
    | some _ => none) path .header t

/-- Opens another table in the array of a header. -/
def openArrayTable? (path : List Text) (key : Text) (t : Entries) : Option Entries :=
  alter false (fun _ t =>
    match t.get? key with
    | none => some (t.put key (.array true [.table .header []]))
    | some (.array true items) => some (t.put key (.array true (items ++ [.table .header []])))
    | some _ => none) path .header t

end Entries

end Toml

end KeywordFinder
