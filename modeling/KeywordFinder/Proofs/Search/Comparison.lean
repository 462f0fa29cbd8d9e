import KeywordFinder.Proofs.Scan.Hits
import KeywordFinder.Proofs.Search.Outcome

/-!
# Comparing searches

A search that a check rejects shows nothing (`Search.run_of_rejection`), and any other one shows the hits of the walked
files as far as the sink takes them (`Search.run_of_passes`).  If the checks of two searches look at the same things,
both come out in the same way (`Search.SameChecks.run_cases`).
-/

namespace KeywordFinder

/-! ### What reaches a sink -/

namespace Sink

/-- The part of the lines that reaches a sink. -/
def received {α : Type} (sink : Sink) (lines : List α) : List α :=
  match sink.failure with
  | none => lines
  | some f => lines.take (f.flushes + if f.onFlush then 1 else 0)

/-- The status of a search that has a number of lines to show. -/
def statusAfter (sink : Sink) (lines : Nat) : ExitStatus :=
  match sink.failure with
  | none => .success
  | some f => if lines ≤ f.flushes ∨ f.fault.isBrokenPipe = true then .success else .error

variable {α β : Type}

theorem received_map (sink : Sink) (f : α → β) (lines : List α) :
    sink.received (lines.map f) = (sink.received lines).map f := by
  rw [received, received]
  split
  · rfl
  · exact List.map_take.symm

theorem received_prefix (sink : Sink) (lines : List α) : sink.received lines <+: lines := by
  rw [received]
  split
  · exact List.prefix_refl _
  · exact List.take_prefix _ _

end Sink

private theorem linesWritten_append (es es' : List OutputEvent) :
    linesWritten (es ++ es') = linesWritten es ++ linesWritten es' := List.filterMap_append

private theorem linesWritten_received (f : SinkFailure) (lines : List Text) :
    linesWritten (f.received f.flushes lines) = Sink.received ⟨some f⟩ lines := by
  rw [SinkFailure.received, linesWritten_append, Scanner.linesWritten_emitted, Sink.received]
  dsimp only
  cases f.onFlush with
  | false => exact List.append_nil _
  | true =>
    rw [if_pos rfl, if_pos rfl, List.take_add_one]
    cases lines[f.flushes]? <;> rfl

namespace Search

variable {env env' : Environment} {o o' : Options}

/-! ### One search -/

/-- The hits of a search with its configuration, in the order of the walk. -/
def foundHits (fs : FileSystem) (o : Options) (c : Config) : List Hit :=
  (fs.walk (c.walkOptions o.extensions o.excludes) o.path).files.flatMap fun f =>
    Matcher.hits ⟨soughtKeyword o c, Role.ordered o.roles⟩ f.path (linesRead (fs.readerOf f.path))

/-- Whether a search with its configuration shows colours. -/
def isColored (env : Environment) (o : Options) (c : Config) : Bool :=
  (o.colorMode c.search.color).isOn env.declinesColor env.isTerminal

theorem shownLines_eq (env : Environment) (o : Options) (c : Config) :
    shownLines env o c = (foundHits env.files o c).map (·.render (.ofDecision (isColored env o c))) := by
  rw [shownLines, scannedLines, foundHits, List.map_flatMap]
  congr 1
  funext f
  exact Scanner.linesWritten_scan ..

/-- A search that no check ends, with what it shows and how it ends. -/
structure Shows (env : Environment) (o : Options) (c : Config) : Prop where
  config : HasConfig env o c
  lines : linesWritten (run env o).output = env.sink.received (shownLines env o c)
  status : (run env o).status = env.sink.statusAfter (shownLines env o c).length

/-- A search that a check rejects shows nothing, and its status tells whether it is the keyword that is rejected. -/
theorem run_of_rejection (h : ∃ c f, Rejects env o c f) :
    (run env o).output = [] ∧
      ((run env o).status = .usage ∧ (∃ f, Rejects env o .keyword f) ∨
        (run env o).status = .error ∧ ¬ ∃ f, Rejects env o .keyword f) := by
  obtain ⟨c, f, hrejects⟩ := h
  rcases run_cases env o with ⟨c', f', log, hfirst, hrun⟩ | ⟨hpasses, -⟩
  · have hrun : run env o = { log, outcome := .error f' } := hrun env.sink
    obtain ⟨hstatus, hpipe⟩ := hfirst.1.failure
    have hends : (run env o).status = f'.failure.status :=
      (SearchResult.ends_of_failure (congrArg SearchResult.outcome hrun) hpipe).1
    refine ⟨congrArg SearchResult.output hrun, ?_⟩
    rw [hends, hstatus]
    by_cases hc : c' = .keyword
    · rw [if_pos hc]
      exact .inl ⟨rfl, f', hc ▸ hfirst.1⟩
    · rw [if_neg hc]
      exact .inr ⟨rfl, fun ⟨g, hg⟩ => hfirst.passes_keyword hc g hg⟩
  · exact absurd hrejects (hpasses c f)

/-- A search that no check rejects shows its lines as far as the sink takes them. -/
theorem run_of_passes (h : ∀ c, Passes env o c) : ∃ c, Shows env o c := by
  rcases run_cases env o with ⟨c, f, log, hfirst, -⟩ | ⟨-, config, log, hconfig, hrun⟩
  · exact absurd hfirst.1 (h c f)
  obtain ⟨houtput, houtcome, hsink⟩ := execute_of_sink env o config log
  simp only [← hrun] at houtput houtcome hsink
  have hends : ∀ sink : Sink,
      linesWritten (run { env with sink } o).output = sink.received (shownLines env o config) ∧
        (run { env with sink } o).status = sink.statusAfter (shownLines env o config).length := by
    rintro ⟨_ | f⟩
    · exact ⟨(congrArg linesWritten houtput).trans (Scanner.linesWritten_emitted _),
        (SearchResult.ends_of_ok houtcome).1⟩
    obtain ⟨hreceived, hr, -⟩ := hsink f
    refine ⟨(congrArg linesWritten hreceived).trans (linesWritten_received f _), ?_⟩
    rw [Sink.statusAfter]
    dsimp only
    by_cases hroom : (shownLines env o config).length ≤ f.flushes
    · rw [if_pos hroom] at hr
      rw [if_pos (.inl hroom)]
      exact (SearchResult.ends_of_ok hr).1
    · rw [if_neg hroom] at hr
      cases hpipe : f.fault.isBrokenPipe with
      | true =>
        rw [if_pos (.inr rfl)]
        exact (SearchResult.ends_of_broken_pipe hr hpipe).1
      | false =>
        rw [if_neg (by simp [hroom])]
        exact (SearchResult.ends_of_failure hr hpipe).1
  obtain ⟨hlines, hstatus⟩ := hends env.sink
  exact ⟨config, hconfig, hlines, hstatus⟩

/-- What each check objects to, without what it says about it. -/
theorem exists_rejects_iff (env : Environment) (o : Options) (check : Check) :
    (∃ f, Rejects env o check f) ↔
      match check with
      | .keyword => ∃ p, keywordProblem? o.keyword = some p
      | .path => env.files.pathExists o.path = false
      | .config => ¬ ∃ c, HasConfig env o c
      | .pattern => ∃ c, HasConfig env o c ∧ Matcher.build? (soughtKeyword o c) o.roles = none := by
  cases check with
  | keyword =>
    constructor
    · rintro ⟨_, ⟨hp⟩⟩
      exact ⟨_, hp⟩
    · rintro ⟨p, hp⟩
      exact ⟨_, .keyword hp⟩
  | path =>
    constructor
    · rintro ⟨_, _ | hpath⟩
      exact hpath
    · intro hpath
      exact ⟨_, .path hpath⟩
  | config =>
    constructor
    · rintro ⟨_, _ | _ | ⟨hpath, hload⟩⟩ ⟨c, ⟨hnone, -⟩ | ⟨p, hpath', hload'⟩⟩
      · rw [hpath] at hnone
        cases hnone
      · rw [hpath] at hpath'
        cases hpath'
        rw [hload] at hload'
        cases hload'
    · intro hnone
      cases hpath : configPath? env o with
      | none => exact absurd ⟨_, .inl ⟨hpath, rfl⟩⟩ hnone
      | some p =>
        cases hload : Config.load env.files p with
        | ok c => exact absurd ⟨c, .inr ⟨p, hpath, hload⟩⟩ hnone
        | error f => exact ⟨_, .config hpath hload⟩
  | pattern =>
    constructor
    · rintro ⟨_, _ | _ | _ | ⟨hconfig, -, hbuild⟩⟩
      exact ⟨_, hconfig, hbuild⟩
    · rintro ⟨c, hconfig, hbuild⟩
      obtain ⟨r, rest, hroles⟩ := List.exists_cons_of_ne_nil (Role.ordered_ne_nil o.roles)
      exact ⟨_, .pattern hconfig (congrArg List.head? hroles) hbuild⟩

/-- The checks of two searches look at the same things. -/
structure SameChecks (env env' : Environment) (o o' : Options) : Prop where
  keyword : o'.keyword = o.keyword
  roles : o'.roles = o.roles
  ignoreCase : o'.has .ignoreCase = o.has .ignoreCase
  path : env'.files.pathExists o'.path = env.files.pathExists o.path
  config : ∀ c, HasConfig env' o' c ↔ HasConfig env o c

namespace SameChecks

theorem soughtKeyword_eq (h : SameChecks env env' o o') (c : Config) : soughtKeyword o' c = soughtKeyword o c := by
  rw [soughtKeyword, soughtKeyword, h.keyword, h.ignoreCase]

private theorem exists_rejects (h : SameChecks env env' o o') (check : Check) :
    (∃ f, Rejects env' o' check f) ↔ ∃ f, Rejects env o check f := by
  rw [exists_rejects_iff, exists_rejects_iff]
  cases check <;> simp only [h.keyword, h.path, h.config, h.roles, h.soughtKeyword_eq]

/-- Either a check rejects both searches, with the same status, or both have the same configuration and show their
lines. -/
theorem run_cases (h : SameChecks env env' o o') :
    ((run env o).output = [] ∧ (run env' o').output = [] ∧ (run env' o').status = (run env o).status) ∨
      ∃ c, Shows env o c ∧ Shows env' o' c := by
  by_cases hrejects : ∃ check f, Rejects env o check f
  · have hrejects' : ∃ check f, Rejects env' o' check f := by
      obtain ⟨check, hf⟩ := hrejects
      exact ⟨check, (h.exists_rejects check).2 hf⟩
    obtain ⟨houtput, hstatus⟩ := run_of_rejection hrejects
    obtain ⟨houtput', hstatus'⟩ := run_of_rejection hrejects'
    rw [h.exists_rejects] at hstatus'
    refine .inl ⟨houtput, houtput', ?_⟩
    rcases hstatus with ⟨hstatus, hkeyword⟩ | ⟨hstatus, hkeyword⟩ <;>
      rcases hstatus' with ⟨hstatus', hkeyword'⟩ | ⟨hstatus', hkeyword'⟩
    · rw [hstatus, hstatus']
    · exact absurd hkeyword hkeyword'
    · exact absurd hkeyword' hkeyword
    · rw [hstatus, hstatus']
  · have hpasses : ∀ check, Passes env o check := fun check f hf => hrejects ⟨check, f, hf⟩
    have hpasses' : ∀ check, Passes env' o' check := fun check f hf =>
      hrejects ⟨check, (h.exists_rejects check).1 ⟨f, hf⟩⟩
    obtain ⟨c, hshows⟩ := run_of_passes hpasses
    obtain ⟨c', hshows'⟩ := run_of_passes hpasses'
    have hc : c' = c := HasConfig.unique ((h.config c').1 hshows'.config) hshows.config
    exact .inr ⟨c, hshows, hc ▸ hshows'⟩

end SameChecks

end Search

end KeywordFinder
