import KeywordFinder.CommandLine.Parser
import KeywordFinder.Config.Reading
import KeywordFinder.Discovery
import KeywordFinder.Log.Filter
import KeywordFinder.Scan.Scanner

/-!
# Searches

A search checks the keyword, the path, the configuration and the size of the keyword, in this order, and
the first of them that fails ends it before any output.  Then it walks the path and scans the files in
the order of the walk.
-/

namespace KeywordFinder

/-- What a search finds around it. -/
structure Environment where
  files : FileSystem
  /-- The configuration that is named from outside. -/
  config : Option Bytes := none
  /-- The log filter that is asked for. -/
  logFilter : Option Bytes := none
  /-- Whether colours are declined. -/
  declinesColor : Bool := false
  isTerminal : Bool := false
  sink : Sink := .reliable

/-- What ends a search early: a failure, and what was being done. -/
structure SearchFailure where
  failure : Failure
  context : Text := []
deriving DecidableEq, Repr

/-- The line that reports a failure. -/
def SearchFailure.report (f : SearchFailure) : Text :=
  (if f.context.isEmpty then [] else f.context ++ [':', ' ']) ++ f.failure.report

/-- What a search is about, once everything is checked. -/
structure SearchPlan where
  scanner : Scanner
  path : Path
  walk : WalkOptions

/-- What comes of a search. -/
structure SearchResult where
  output : List OutputEvent := []
  log : List LogEvent := []
  outcome : Except SearchFailure Unit

/-- The counts of a walk that is scanned. -/
structure SearchTotals where
  files : Nat := 0
  stats : ScanStats := {}
deriving DecidableEq, Repr

namespace Search

/-- The configuration of a search: the one that the options name, or else the nearest one. -/
def configPath? (env : Environment) (o : Options) : Option Path :=
  o.config.or (env.files.findConfig? ((env.files.canonical? o.path).getD o.path))

/-- Loads the configuration at a path that is found or given. -/
def loadConfig (env : Environment) (o : Options) : Except SearchFailure (Config × List LogEvent) :=
  match configPath? env o with
  | none => .ok ({}, [])
  | some p =>
    match Config.load env.files p with
    | .ok c =>
      .ok (c, [⟨.debug, .config, "loaded config from ".toList ++ decodeLossy p⟩])
    | .error f =>
      .error ⟨f, if o.config.isSome then "loading --config ".toList ++ decodeLossy p else []⟩

/-- Checks the keyword and the path of a search. -/
def checkTarget (env : Environment) (o : Options) : Except SearchFailure Unit :=
  match checkKeyword o.keyword with
  | .error f => .error { failure := f }
  | .ok () =>
    if env.files.pathExists o.path then .ok () else .error { failure := .missingPath o.path }

/-- The plan of a search with its configuration, if the keyword is small enough. -/
def plan (env : Environment) (o : Options) (config : Config) : Except SearchFailure SearchPlan :=
  let keyword : Keyword := ⟨o.keyword, o.has .ignoreCase || config.search.ignoreCase⟩
  let colored := (o.colorMode config.search.color).isOn env.declinesColor env.isTerminal
  match Matcher.build? keyword o.roles with
  | none =>
    .error { failure := .oversizedKeyword ((Role.ordered o.roles).head?.getD .classDecl) o.keyword }
  | some matcher => .ok {
      scanner := ⟨matcher, .ofDecision colored, env.sink⟩
      path := o.path
      walk := config.walkOptions o.extensions o.excludes }

/-- The text of a truth value. -/
def truthText (b : Bool) : Text := if b then "true".toList else "false".toList

/-- The number as text. -/
def numberText (n : Nat) : Text := Nat.toDigits 10 n

/-- The event at the start of the walk. -/
def startEvent (p : SearchPlan) : LogEvent :=
  let matcher := p.scanner.matcher
  ⟨.debug, .search, "searching ".toList ++ decodeLossy p.path ++ " for ".toList
    ++ quote matcher.keyword.text ++ " (roles: ".toList
    ++ ", ".toList.intercalate (matcher.roles.map (·.name.toList)) ++ "; extensions: ".toList
    ++ quoteList p.walk.extensions ++ "; ignore case: ".toList
    ++ truthText matcher.keyword.ignoreCase ++ [')']⟩

/-- The event at the end of the walk. -/
def endEvent (totals : SearchTotals) (walk : WalkResult) : LogEvent :=
  ⟨.debug, .search, "scanned ".toList ++ numberText totals.files ++ " files (".toList
    ++ numberText totals.stats.lines ++ " lines, ".toList ++ numberText totals.stats.undecodable
    ++ " undecodable), ".toList ++ numberText totals.stats.hits ++ " hits; ".toList
    ++ numberText walk.skipped ++ " files skipped by extension, ".toList
    ++ numberText walk.errors ++ " unreadable entries".toList⟩

/-- Scans files in order until the output fails. -/
def scanFiles (s : Scanner) (files : FileSystem) (flushes : Nat) (totals : SearchTotals) :
    List WalkedFile → List OutputEvent × Except Fault SearchTotals
  | [] => ([], .ok totals)
  | f :: rest =>
    let r := s.scan f.path flushes (files.readerOf f.path)
    match r.outcome with
    | .error fault => (r.events, .error fault)
    | .ok stats =>
      let (events, outcome) :=
        scanFiles s files (flushes + flushCount r.events) ⟨totals.files + 1, totals.stats.add stats⟩ rest
      (r.events ++ events, outcome)

/-- Walks and scans. -/
def execute (env : Environment) (p : SearchPlan) (log : List LogEvent) : SearchResult :=
  let warnings := p.walk.warnings.map fun w => ⟨.warn, .walk, w⟩
  let walk := env.files.walk p.walk p.path
  let (output, outcome) := scanFiles p.scanner env.files 0 {} walk.files
  let log := log ++ warnings ++ [startEvent p]
  match outcome with
  | .ok totals => ⟨output, log ++ [endEvent totals walk], .ok ()⟩
  | .error fault => ⟨output, log, .error { failure := .output fault }⟩

/-- Runs a search. -/
def run (env : Environment) (o : Options) : SearchResult :=
  match checkTarget env o with
  | .error f => { outcome := .error f }
  | .ok () =>
    match loadConfig env o with
    | .error f => { outcome := .error f }
    | .ok (config, log) =>
      match plan env o config with
      | .error f => { log, outcome := .error f }
      | .ok p => execute env p log

end Search

namespace SearchResult

/-- The status that a search ends with.  It is a success that nobody reads the output any more. -/
def status (r : SearchResult) : ExitStatus :=
  match r.outcome with
  | .ok () => .success
  | .error f => if f.failure.isBrokenPipe then .success else f.failure.status

/-- The lines that report how a search ended, if it failed. -/
def errorLines (r : SearchResult) : List Text :=
  match r.outcome with
  | .ok () => []
  | .error f =>
    if f.failure.isBrokenPipe then []
    else ("error: ".toList ++ f.report) ::
      if f.failure.status = .usage then [[], "For more information, try '--help'.".toList] else []

/-- The diagnostic lines of a search: what the filter lets pass, and the report of a failure. -/
def diagnostics (r : SearchResult) (filter : LogFilter) : List Text :=
  (r.log.filter filter.passes).map (·.line) ++ r.errorLines

end SearchResult

/-- What comes of a command line. -/
inductive ProgramResult where
  | help
  | version
  | misuse (p : UsageProblem)
  | search (output : List Text) (diagnostics : List Text) (status : ExitStatus)
deriving DecidableEq, Repr

/-- The name of the program and its version. -/
def versionLine : Text := "findit 0.1.0".toList

/-- Runs the program. -/
def runProgram (env : Environment) (args : List Bytes) : ProgramResult :=
  match CommandLine.parse args env.config with
  | .error .help => .help
  | .error .version => .version
  | .error (.problem p) => .misuse p
  | .ok o =>
    let r := Search.run env o
    .search (linesWritten r.output)
      (r.diagnostics (.ofEnvironment env.logFilter (o.has .verbose))) r.status

end KeywordFinder
