import KeywordFinder.Toml.Scalar

/-!
# Reading TOML documents

A document is read statement by statement into one table.  Values nest up to a fixed depth, and dotted
keys are no longer than that; the loops over items, entries and statements take fuel, of which the length
of the text is enough because each round takes at least one character.
-/

namespace KeywordFinder

namespace Toml

/-! ### Between values -/

/-- The text after blanks within a line. -/
def skipSpaces (s : Text) : Text := s.dropWhile isSpace

/-- The text after blanks, line breaks and comments. -/
def skipGaps (inComment : Bool) : Text → Option Text
  | [] => some []
  | c :: s =>
    if c = '\n' then skipGaps false s
    else if c = '\r' then if breaksLine s then skipGaps false s else none
    else if inComment then if isPlain c then skipGaps true s else none
    else if isSpace c then skipGaps false s
    else if c = '#' then skipGaps true s
    else some (c :: s)

/-- The text after the end of a line, where at most a comment may be left. -/
def endLine (inComment : Bool) : Text → Option Text
  | [] => some []
  | c :: s =>
    if c = '\n' then some s
    else if c = '\r' then if breaksLine s then some (s.drop 1) else none
    else if inComment then if isPlain c then endLine true s else none
    else if isSpace c then endLine false s
    else if c = '#' then endLine true s
    else none

/-! ### Keys -/

/-- The characters of keys without quotes. -/
def isKeyChar (c : Char) : Bool := c.isAlphanum || c = '_' || c = '-'

/-- Reads one key. -/
def key? (s : Text) : Option (Text × Text) :=
  match s with
  | '"' :: s => basicBody 0 s
  | '\'' :: s => literalBody s
  | s =>
    let key := s.takeWhile isKeyChar
    if key.isEmpty then none else some (key, s.dropWhile isKeyChar)

/-- How deep values may nest, and how many keys a dotted key may have. -/
def maxDepth : Nat := 80

/-- Reads a dotted key of at most `length` keys: those before the last, the last one, and the text after
it. -/
def keyPath? : (length : Nat) → Text → Option (List Text × Text × Text)
  | 0, _ => none
  | length + 1, s => do
    let (key, rest) ← key? (skipSpaces s)
    match skipSpaces rest with
    | '.' :: rest =>
      let (path, last, rest) ← keyPath? length rest
      return (key :: path, last, rest)
    | rest => return ([], key, rest)

/-! ### Values -/

/-- Reads the items of an array after its bracket, given a reader of items. -/
def items? (item : Text → Option (Toml × Text)) : (fuel : Nat) → Text → Option (List Toml × Text)
  | 0, _ => none
  | fuel + 1, s => do
    match ← skipGaps false s with
    | ']' :: rest => return ([], rest)
    | s =>
      let (v, rest) ← item s
      match ← skipGaps false rest with
      | ']' :: rest => return ([v], rest)
      | ',' :: rest =>
        let (vs, rest) ← items? item fuel rest
        return (v :: vs, rest)
      | _ => none

/-- Reads a key with its value, given what may stand around the sign between them and a reader of
values. -/
def keyValue? (gap : Text → Option Text) (value : Text → Option (Toml × Text)) (s : Text) :
    Option ((List Text × Text × Toml) × Text) := do
  let (path, key, rest) ← keyPath? maxDepth s
  let rest ← after? '=' (← gap rest)
  let (v, rest) ← value (← gap rest)
  return ((path, key, v), rest)

/-- Reads the entries of an inline table after its brace, given a reader of values. -/
def entries? (value : Text → Option (Toml × Text)) (t : Entries) :
    (fuel : Nat) → Text → Option (Entries × Text)
  | 0, _ => none
  | fuel + 1, s => do
    match ← skipGaps false s with
    | '}' :: rest => return (t, rest)
    | s =>
      let ((path, key, v), rest) ← keyValue? (skipGaps false) value s
      let t ← Entries.assign? path key v .inline t
      match ← skipGaps false rest with
      | '}' :: rest => return (t, rest)
      | ',' :: rest => entries? value t fuel rest
      | _ => none

/-- Reads a value in which at most `depth` arrays and tables nest. -/
def value? : (depth : Nat) → Text → Option (Toml × Text)
  | 0, s => scalar? s
  | depth + 1, s =>
    match s with
    | '[' :: s => do
      let (vs, rest) ← items? (value? depth) (s.length + 1) s
      return (.array false vs, rest)
    | '{' :: s => do
      let (t, rest) ← entries? (value? depth) [] (s.length + 1) s
      return (.table .inline t, rest)
    | s => scalar? s

/-! ### Documents -/

/-- The statements of a document. -/
inductive Statement where
  | header (path : List Text) (key : Text)
  | arrayHeader (path : List Text) (key : Text)
  | assignment (path : List Text) (key : Text) (value : Toml)

/-- Reads one statement up to the end of its line. -/
def statement? (s : Text) : Option (Statement × Text) :=
  match s with
  | '[' :: '[' :: s => do
    let (path, key, rest) ← keyPath? maxDepth s
    let rest ← endLine false (← after? ']' (← after? ']' rest))
    return (.arrayHeader path key, rest)
  | '[' :: s => do
    let (path, key, rest) ← keyPath? maxDepth s
    let rest ← endLine false (← after? ']' rest)
    return (.header path key, rest)
  | s => do
    let ((path, key, v), rest) ← keyValue? (fun s => some (skipSpaces s)) (value? maxDepth) s
    return (.assignment path key v, ← endLine false rest)

/-- Reads the statements of a document. -/
def statements? : (fuel : Nat) → Text → Option (List Statement)
  | 0, _ => none
  | fuel + 1, s => do
    match ← skipGaps false s with
    | [] => return []
    | s =>
      let (first, rest) ← statement? s
      let more ← statements? fuel rest
      return first :: more

/-- Adds statements to a document, the keys of assignments below the header at `here`. -/
def build? (here : List Text) (t : Entries) : List Statement → Option Entries
  | [] => some t
  | .header path key :: rest => do
    let t ← Entries.openTable? path key t
    build? (path ++ [key]) t rest
  | .arrayHeader path key :: rest => do
    let t ← Entries.openArrayTable? path key t
    build? (path ++ [key]) t rest
  | .assignment path key v :: rest => do
    let t ← Entries.alter false (Entries.assign? path key v) here .header t
    build? here t rest

/-- A text without the mark that may stand at its start. -/
def dropMark : Text → Text
  | c :: s => if c.toNat = 0xFEFF then s else c :: s
  | [] => []

/-- Reads a document. -/
def parse? (s : Text) : Option Entries := do
  let s := dropMark s
  build? [] [] (← statements? (s.length + 1) s)

end Toml

end KeywordFinder
