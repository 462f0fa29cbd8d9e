import KeywordFinder.Text.Alphanumeric
import KeywordFinder.Text.Digits

/-!
# Values of fields

The value that a directive asks of a field is a number or a pattern, and a directive with anything else
cannot be read.  No event is ever compared with a value, so that all there is to say of a pattern is whether it
is well formed: its groups and sets are closed, an operator of repetition has something to repeat, and
its escapes are known.  Counted repetition and word boundaries are not.  Group names may repeat, and flags
change nothing.
-/

namespace KeywordFinder

namespace Pattern

/-- What an escape stands for. -/
inductive Escape where
  | character (c : Char)
  /-- Any character of a class. -/
  | anyOf
  /-- The start or the end of the text. -/
  | place
deriving DecidableEq, Repr

/-- Reads an escape by code point, after its letter. -/
def codeEscape? (digits : Nat) (s : Text) : Option (Escape × Text) :=
  (charOfDigits? digits s).map fun c => (.character c, s.drop digits)

/-- Reads an escape after its backslash. -/
def escape? : Text → Option (Escape × Text)
  | [] => none
  | c :: s =>
    if c = 'x' then codeEscape? 2 s
    else if c = 'u' then codeEscape? 4 s
    else if c = 'U' then codeEscape? 8 s
    else if c = 'p' ∨ c = 'P' then
      match s with
      | l :: s => if "CLMNPSZ".toList.contains l.toUpper then some (.anyOf, s) else none
      | [] => none
    else if "dDsSwW".toList.contains c then some (.anyOf, s)
    else if "Az".toList.contains c then some (.place, s)
    else if c.toNat < 0x80 && !"<>".toList.contains c && (!c.isAlphanum || "afnrtv".toList.contains c) then
      some (.character c, s)
    else none

/-! ### Sets -/

/-- Reads one member of a set. -/
def member? : Text → Option (Escape × Text)
  | [] => none
  | '\\' :: s => (escape? s).filter fun p => p.1 ≠ .place
  | c :: s => some (.character c, s)

/-- Reads a member of a set, or two with a hyphen between them that are in order. -/
def members? (s : Text) : Option Text := do
  let (first, rest) ← member? s
  match first, rest with
  | .character a, '-' :: c :: rest =>
    if c = ']' ∨ c = '-' then return '-' :: c :: rest
    else
      match ← member? (c :: rest) with
      | (.character b, rest) => if a ≤ b then return rest else none
      | _ => none
  | .anyOf, '-' :: c :: rest => if c = ']' ∨ c = '-' then return '-' :: c :: rest else none
  | _, rest => return rest

/-- The text after what may stand right behind the bracket of a set: a sign of negation, hyphens, and a
closing bracket that is a member. -/
def openSet (s : Text) : Text :=
  let s := if s.head? = some '^' then s.tail else s
  match s with
  | ']' :: s => s
  | s => s.dropWhile (· = '-')

/-- The names of classes that are written between colons. -/
def classNames : List String := ["alnum", "alpha", "ascii", "blank", "cntrl", "digit", "graph", "lower",
  "print", "punct", "space", "upper", "word", "xdigit"]

/-- The text after a class between colons, behind its bracket. -/
def namedClass? : Text → Option Text
  | ':' :: s =>
    let s := if s.head? = some '^' then s.tail else s
    let name := s.takeWhile (· ≠ ':')
    match s.drop name.length with
    | ':' :: ']' :: rest => if classNames.contains (String.ofList name) then some rest else none
    | _ => none
  | _ => none

/-- The text after a set that is open together with `depth` sets around it. -/
def closeSet? : (fuel depth : Nat) → Text → Option Text
  | 0, _, _ => none
  | fuel + 1, depth, s =>
    match s with
    | [] => none
    | '[' :: s =>
      match namedClass? s with
      | some rest => closeSet? fuel depth rest
      | none => closeSet? fuel (depth + 1) (openSet s)
    | ']' :: s =>
      match depth with
      | 0 => some s
      | depth + 1 => closeSet? fuel depth s
    | '&' :: '&' :: s => closeSet? fuel depth s
    | '-' :: '-' :: s => closeSet? fuel depth s
    | '~' :: '~' :: s => closeSet? fuel depth s
    | s => (members? s).bind (closeSet? fuel depth)

/-! ### Groups -/

/-- Reads the name of a group and the mark behind it. -/
def groupName? (s : Text) : Option Text :=
  let name := s.takeWhile (· ≠ '>')
  match name, s.drop name.length with
  | c :: cs, _ :: rest =>
    if (c = '_' || isAlphanumeric c && !c.isDigit)
        && cs.all fun c => isAlphanumeric c || ['_', '.', '[', ']'].contains c then some rest
    else none
  | _, _ => none

/-- Whether a text is flags: each letter at most once, and perhaps a hyphen before some of them. -/
def areFlags (s : Text) : Bool :=
  s.all ("imsUuRx-".toList.contains ·) && s.eraseDups.length = s.length && s.getLast? ≠ some '-'

/-- Reads what follows an opening parenthesis: the text after it, and whether a group is open. -/
def openGroup? (s : Text) : Option (Text × Bool) :=
  match s with
  | '?' :: 'P' :: '<' :: s => (groupName? s).map (·, true)
  | '?' :: '<' :: s => (groupName? s).map (·, true)
  | '?' :: s =>
    let flags := s.takeWhile fun c => c ≠ ':' ∧ c ≠ ')'
    if !areFlags flags then none
    else match s.drop flags.length with
      | ':' :: rest => some (rest, true)
      | _ :: rest => if flags.isEmpty then none else some (rest, false)
      | [] => none
  | s => some (s, true)

/-! ### Patterns -/

/-- Whether a text goes on a pattern with so many open groups.  `repeatable` says whether something stands
before it that can be repeated. -/
def goesOn : (fuel openGroups : Nat) → (repeatable : Bool) → Text → Bool
  | 0, _, _, _ => false
  | fuel + 1, openGroups, repeatable, s =>
    match s with
    | [] => openGroups = 0
    | '(' :: s =>
      match openGroup? s with
      | some (rest, isOpen) => goesOn fuel (if isOpen then openGroups + 1 else openGroups) false rest
      | none => false
    | ')' :: s => openGroups ≠ 0 && goesOn fuel (openGroups - 1) true s
    | '|' :: s => goesOn fuel openGroups false s
    | '[' :: s =>
      match closeSet? (s.length + 1) 0 (openSet s) with
      | some rest => goesOn fuel openGroups true rest
      | none => false
    | '{' :: _ => false
    | '\\' :: s =>
      match escape? s with
      | some (_, rest) => goesOn fuel openGroups true rest
      | none => false
    | c :: s => (repeatable || !"*+?".toList.contains c) && goesOn fuel openGroups true s

end Pattern

/-- Whether a text is a well-formed pattern. -/
def isPattern (s : Text) : Bool := Pattern.goesOn (s.length + 1) 0 false s

/-- Whether a text is a number without a sign, with or without a fraction and an exponent, or the name of
one that has no digits. -/
def isPlainNumber (s : Text) : Bool :=
  let s := s.map Char.toLower
  let mantissa := s.takeWhile (· ≠ 'e')
  let power := s.drop mantissa.length
  let digits := mantissa.filter (· ≠ '.')
  let signless := match power.tail with
    | '+' :: p => p
    | '-' :: p => p
    | p => p
  ["inf", "infinity", "nan"].contains (String.ofList s)
    || !digits.isEmpty && digits.all Char.isDigit && mantissa.length ≤ digits.length + 1
      && (power.isEmpty || !signless.isEmpty && signless.all Char.isDigit)

/-- Whether a text is a value that can be asked of a field.  Numbers without a plus sign are patterns. -/
def isFieldValue (s : Text) : Bool :=
  isPattern s || s.head? = some '+' && isPlainNumber s.tail

end KeywordFinder
