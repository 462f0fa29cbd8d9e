import KeywordFinder.Fault
import KeywordFinder.Text.Utf8

/-!
# Output

What reaches an output is recorded as a list of events.  A sink may fail once a number of flushes have
succeeded; a line that is emitted before that is written and flushed.  An interrupted write is tried
again and so is no failure, while an interrupted flush is one.
-/

namespace KeywordFinder

/-- What happens to an output. -/
inductive OutputEvent where
  | wrote (line : Text)
  | flushed
deriving DecidableEq, Repr

/-- The lines written. -/
def linesWritten (events : List OutputEvent) : List Text :=
  events.filterMap fun
    | .wrote line => some line
    | .flushed => none

/-- The number of flushes. -/
def flushCount (events : List OutputEvent) : Nat := events.count .flushed

/-- The length of the output at each flush, if it was `length` before. -/
def flushOffsets (length : Nat) : List OutputEvent → List Nat
  | [] => []
  | .wrote line :: es => flushOffsets (length + encodedLength line + 1) es
  | .flushed :: es => length :: flushOffsets length es

/-- How a sink fails. -/
structure SinkFailure where
  /-- The number of flushes that succeed. -/
  flushes : Nat
  /-- Whether writing goes on and only flushing fails. -/
  onFlush : Bool
  fault : Fault
  /-- A write that is interrupted is tried again, so no write gives this fault back. -/
  not_retried : onFlush = true ∨ fault ≠ .interrupted
deriving DecidableEq, Repr

/-- A sink, with the way in which it fails if it does. -/
structure Sink where
  failure : Option SinkFailure
deriving DecidableEq, Repr

namespace Sink

/-- A sink that takes everything. -/
def reliable : Sink := ⟨none⟩

/-- Emits a line after a number of flushes: what reaches the output, and the fault if there is one. -/
def emit (sink : Sink) (flushes : Nat) (line : Text) : List OutputEvent × Option Fault :=
  match sink.failure with
  | none => ([.wrote line, .flushed], none)
  | some f =>
    if flushes < f.flushes then ([.wrote line, .flushed], none)
    else (if f.onFlush then [.wrote line] else [], some f.fault)

end Sink

end KeywordFinder
