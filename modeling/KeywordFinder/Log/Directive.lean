import KeywordFinder.Log.Event
import KeywordFinder.Log.Pattern
import KeywordFinder.Text.Alphanumeric
import KeywordFinder.Text.Utf8

/-!
# Log directives

A directive is a level, a target, or both with an equals sign between them.  Brackets after the target
name a span that events must be in, or in braces a field that they must have, perhaps with a value.  A
directive is scanned without the blanks around it, but its parts are cut out of the directive as it is
written, at the places where they are scanned.
-/

namespace KeywordFinder

/-- A condition on the fields of an event. -/
structure LogField where
  name : Bytes
  hasValue : Bool
deriving DecidableEq, Repr

/-- A directive sets the level of the events that meet its conditions. -/
structure LogDirective where
  /-- What the target of an event starts with. -/
  target : Option Bytes := none
  /-- The span that an event is in. -/
  span : Option Bytes := none
  field : Option LogField := none
  level : LogLevel := .trace
deriving DecidableEq, Repr

namespace LogDirective

/-! ### Events -/

/-- Whether a directive speaks of an event.  Events are in no span, and the values of their fields are
not looked at. -/
def concerns (d : LogDirective) (e : LogEvent) : Bool :=
  d.span.isNone
    && (match d.target with
      | some t => t.isPrefixOf (bytes e.target.name)
      | none => true)
    && match d.field with
      | some f => !f.hasValue && f.name == bytes LogEvent.fieldName
      | none => true

/-- How exactly a directive says what it speaks of: longer targets come first, and then fields. -/
def precision (d : LogDirective) : Nat :=
  2 * (match d.target with
    | some t => t.length + 1
    | none => 0) + if d.field.isSome then 1 else 0

/-! ### Reading -/

/-- The bytes from one place up to another. -/
def cut (written : Bytes) (start stop : Nat) : Bytes := (written.drop start).take (stop - start)

/-- Whether a character may start a target or a level. -/
def startsName (c : Char) : Bool := ['-', ':', '_'].contains c || isAlphanumeric c

/-- The level that a part of a directive names. -/
def level? (part : Bytes) : Option LogLevel := (decode? part).bind LogLevel.ofText?

/-- Reads the level from a place on.  Without a name everything passes. -/
def withLevel? (d : LogDirective) (written : Bytes) (start : Nat) : Option LogDirective :=
  let part := written.drop start
  if part.isEmpty then some d else (level? part).map fun l => { d with level := l }

/-- The length of a text up to the first of two marks. -/
def lengthBefore (a b : Char) (s : Bytes) : Nat :=
  (s.takeWhile fun c => c ≠ a.toUInt8 ∧ c ≠ b.toUInt8).length

/-- Reads what follows the brackets: nothing, or a level. -/
def afterBrackets? (d : LogDirective) (written : Bytes) (place : Nat) : Bytes → Option LogDirective
  | [] => some d
  | c :: _ => if c = '='.toUInt8 then d.withLevel? written (place + 1) else none

/-- Reads a field: a name, perhaps with a value after an equals sign. -/
def field? (part : Bytes) : Option LogField :=
  let name := part.takeWhile (· ≠ '='.toUInt8)
  if part.isEmpty then none
  else match part.drop name.length with
    | [] => some ⟨name, false⟩
    | _ :: rest =>
      match decode? (rest.takeWhile (· ≠ '='.toUInt8)) with
      | some value => if isFieldValue value then some ⟨name, true⟩ else none
      | none => none

/-- Reads the brackets and what follows them, from a place on. -/
def brackets? (d : LogDirective) (written : Bytes) (place : Nat) (s : Bytes) : Option LogDirective :=
  let stop := place + lengthBefore ']' '{' s
  match s.drop (stop - place) with
  | [] => none
  | c :: rest =>
    if c = ']'.toUInt8 then
      { d with span := some (cut written place stop) }.afterBrackets? written (stop + 1) rest
    else do
      let close := stop + 1 + lengthBefore '}' '}' rest
      let field ← field? (cut written (stop + 1) close)
      let d := { d with
        span := if stop = place then none else some (cut written place stop)
        field := some field }
      match rest.drop (close - (stop + 1)) with
      | _ :: e :: rest => if e = ']'.toUInt8 then d.afterBrackets? written (close + 2) rest else none
      | _ => none

/-- Reads a directive. -/
def parse? (directive : Text) : Option LogDirective :=
  let written := encode directive
  let scanned := encode (trim directive)
  match trim directive with
  | [] => none
  | '[' :: _ => brackets? {} written 1 scanned.tail
  | c :: _ =>
    if !startsName c then none
    else
      let place := lengthBefore '=' '[' scanned
      let d : LogDirective := { target := some (cut written 0 place) }
      match scanned.drop place with
      | [] =>
        match level? written with
        | some l => some { level := l }
        | none => some { target := some written }
      | e :: rest =>
        if e = '='.toUInt8 then d.withLevel? written (place + 1)
        else brackets? d written (place + 1) rest

end LogDirective

end KeywordFinder
