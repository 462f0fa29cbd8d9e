import KeywordFinder.Text.Digits

/-!
# Log events

What a search logs: an event has a level, comes from a part of the program and carries a message.
-/

namespace KeywordFinder

/-- Levels of logging, from the least to the most talkative. -/
inductive LogLevel where
  | off
  | error
  | warn
  | info
  | debug
  | trace
deriving DecidableEq, Repr

namespace LogLevel

/-- How talkative a level is. -/
def rank : LogLevel → Nat
  | off => 0
  | error => 1
  | warn => 2
  | info => 3
  | debug => 4
  | trace => 5

/-- The name of a level. -/
def name : LogLevel → String
  | off => "OFF"
  | error => "ERROR"
  | warn => "WARN"
  | info => "INFO"
  | debug => "DEBUG"
  | trace => "TRACE"

/-- All levels. -/
def all : List LogLevel := [off, error, warn, info, debug, trace]

/-- The level of a name, in letters of either case, or of a number, perhaps after a plus sign. -/
def ofText? (s : Text) : Option LogLevel :=
  let digits := if s.head? = some '+' then s.tail else s
  all.find? fun l => l.name.toList = s.map Char.toUpper || number? 10 digits = some l.rank

end LogLevel

/-- The parts of the program that events come from. -/
inductive LogTarget where
  | config
  | walk
  | search
deriving DecidableEq, Repr

/-- The name that filters know a part of the program by. -/
def LogTarget.name : LogTarget → String
  | config => "findit::config"
  | walk => "findit::walker"
  | search => "findit::cmd_find"

/-- An event of a search. -/
structure LogEvent where
  level : LogLevel
  target : LogTarget
  message : Text
deriving DecidableEq, Repr

namespace LogEvent

/-- The name of the only field that events have. -/
def fieldName : String := "message"

/-- The line that an event is logged as, without the time. -/
def line (e : LogEvent) : Text := e.level.name.toList ++ ' ' :: e.message

end LogEvent

end KeywordFinder
