import KeywordFinder.Fault
import KeywordFinder.Line.Matcher
import KeywordFinder.Text.Quoted
import KeywordFinder.Text.Utf8

/-!
# Failures

What ends a search before it is complete, how it is reported, and the exit status it leads to.  Files
that cannot be read and lines that cannot be decoded are no failures: a scan passes over them.
-/

namespace KeywordFinder

/-- Why a text is no keyword. -/
inductive KeywordProblem where
  | empty
  | severalLines
deriving DecidableEq, Repr

/-- The wording of a problem. -/
def KeywordProblem.message : KeywordProblem → Text
  | empty => "keyword must not be empty".toList
  | severalLines => "keyword must fit on one line".toList

/-- The problem of a text as a keyword, if it has one. -/
def keywordProblem? (s : Text) : Option KeywordProblem :=
  if (trim s).isEmpty then some .empty
  else if s.contains '\n' || s.contains '\r' then some .severalLines
  else none

/-- What ends a search. -/
inductive Failure where
  | invalidKeyword (keyword : Text) (problem : KeywordProblem)
  | missingPath (path : Bytes)
  | unreadableConfig (path : Bytes) (fault : Fault)
  | invalidConfig (path : Bytes) (reason : Text)
  /-- The keyword is too large to look for in the given role. -/
  | oversizedKeyword (role : Role) (keyword : Text)
  | output (fault : Fault)
deriving DecidableEq, Repr

/-- The status that the program ends with. -/
inductive ExitStatus where
  | success
  | error
  | usage
deriving DecidableEq, Repr

/-- The number of a status. -/
def ExitStatus.code : ExitStatus → Nat
  | success => 0
  | error => 1
  | usage => 2

namespace Failure

/-- The limit on keywords as it appears in messages. -/
private def sizeMessage : Text :=
  "Compiled regex exceeds size limit of ".toList ++ Nat.toDigits 10 maxWeight ++ " bytes.".toList

/-- The message of a failure. -/
def message : Failure → Text
  | invalidKeyword k p => "invalid keyword ".toList ++ quote k ++ [':', ' '] ++ p.message
  | missingPath p => "path does not exist: ".toList ++ decodeLossy p
  | unreadableConfig p f =>
    "failed to read config ".toList ++ decodeLossy p ++ [':', ' '] ++ f.message
  | invalidConfig p reason => "invalid config ".toList ++ decodeLossy p ++ [':', ' '] ++ reason
  | oversizedKeyword r k =>
    "cannot build ".toList ++ r.name.toList ++ " pattern for keyword ".toList ++ quote k ++ [':', ' ']
      ++ sizeMessage
  | output f => f.message

/-- The cause that a report adds to the message. -/
def cause? : Failure → Option Text
  | unreadableConfig _ f => some f.message
  | oversizedKeyword _ _ => some sizeMessage
  | _ => none

/-- The report of a failure: its message and then its cause. -/
def report (f : Failure) : Text :=
  match f.cause? with
  | some c => f.message ++ [':', ' '] ++ c
  | none => f.message

/-- The status that a failure leads to. -/
def status : Failure → ExitStatus
  | invalidKeyword _ _ => .usage
  | _ => .error

/-- Whether the failure says that nobody reads the output any more. -/
def isBrokenPipe : Failure → Bool
  | output f => f.isBrokenPipe
  | _ => false

end Failure

/-- Accepts a text as a keyword. -/
def checkKeyword (s : Text) : Except Failure Unit :=
  match keywordProblem? s with
  | some p => .error (.invalidKeyword s p)
  | none => .ok ()

end KeywordFinder
