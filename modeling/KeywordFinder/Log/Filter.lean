import KeywordFinder.Log.Directive

/-!
# Log filters

A filter is a list of directives with commas between them.  For an event the most exact directive that
concerns it counts, and of equal ones the last; an event that none concerns is not logged.
-/

namespace KeywordFinder

/-- A filter of events. -/
structure LogFilter where
  directives : List LogDirective
deriving DecidableEq, Repr

namespace LogFilter

/-- The directive that counts for an event. -/
def directiveFor? (f : LogFilter) (e : LogEvent) : Option LogDirective :=
  (f.directives.filter (·.concerns e)).foldl (fun best d =>
    match best with
    | some b => if b.precision ≤ d.precision then some d else some b
    | none => some d) none

/-- Whether a filter lets an event pass. -/
def passes (f : LogFilter) (e : LogEvent) : Bool :=
  (f.directiveFor? e).any fun d => e.level.rank ≤ d.level.rank

/-- The parts of a text between commas. -/
def splitCommas : Text → List Text
  | [] => [[]]
  | c :: s =>
    if c = ',' then [] :: splitCommas s
    else match splitCommas s with
      | l :: ls => (c :: l) :: ls
      | [] => [[c]]

/-- Reads a filter.  Without directives only errors pass. -/
def parse? (s : Text) : Option LogFilter := do
  let directives ← ((splitCommas s).filter (!·.isEmpty)).mapM LogDirective.parse?
  return ⟨if directives.isEmpty then [{ level := .error }] else directives⟩

/-- The filter that is used when none is given. -/
def standard (verbose : Bool) : LogFilter :=
  if verbose then ⟨[{ target := some (bytes "findit"), level := .debug }]⟩ else ⟨[{ level := .warn }]⟩

/-- The filter that the environment asks for, or the standard one. -/
def ofEnvironment (given : Option Bytes) (verbose : Bool) : LogFilter :=
  ((given.bind decode?).bind parse?).getD (standard verbose)

end LogFilter

end KeywordFinder
