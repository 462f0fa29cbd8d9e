import KeywordFinder.Proofs.Scan.FailingSink
import KeywordFinder.Proofs.Search.Checks

/-!
# How a search ends

The first check that objects to something ends a search with its report and without output.  If none does, the search
succeeds and its output is that of the scans of the walked files, one after another.  A sink that fails cuts the
output off, and whether it does decides the status unless only the reader of the output has gone
(`Search.run_ends`).  Files are scanned in order until the sink fails (`Search.scanFiles_failing`).
-/

namespace KeywordFinder

/-! ### Status and report -/

/-- What a report of wrong usage adds. -/
def SearchFailure.hint (f : SearchFailure) : List Text :=
  if f.failure.status = .usage then [[], "For more information, try '--help'.".toList] else []

namespace SearchResult

variable {r : SearchResult} {f : SearchFailure}

theorem ends_of_ok (h : r.outcome = .ok ()) : r.status = .success ∧ r.errorLines = [] := by
  rw [status, errorLines, h]
  exact ⟨rfl, rfl⟩

theorem ends_of_broken_pipe (h : r.outcome = .error f) (hf : f.failure.isBrokenPipe = true) :
    r.status = .success ∧ r.errorLines = [] := by
  rw [status, errorLines, h]
  exact ⟨if_pos hf, if_pos hf⟩

theorem ends_of_failure (h : r.outcome = .error f) (hf : f.failure.isBrokenPipe = false) :
    r.status = f.failure.status ∧ r.errorLines = ("error: ".toList ++ f.report) :: f.hint := by
  rw [status, errorLines, h]
  simp only [hf, Bool.false_eq_true, if_false, SearchFailure.hint, and_self]

end SearchResult

namespace Search

/-! ### Scanning files in order -/

section Scanning

variable (m : Matcher) (palette : Palette) (f : SinkFailure) (fs : FileSystem)

/-- The lines that the scans of files write, one file after another, into a sink that takes everything. -/
def scannedLines (files : List WalkedFile) : List Text :=
  files.flatMap fun file =>
    linesWritten (Scanner.scan ⟨m, palette, .reliable⟩ file.path 0 (fs.readerOf file.path)).events

private theorem scannedLines_cons {file : WalkedFile} {rest : List WalkedFile} {first : List Text} {stats : ScanStats}
    (hscan : Scanner.scan ⟨m, palette, .reliable⟩ file.path 0 (fs.readerOf file.path) =
      ⟨Scanner.emitted first, .ok stats⟩) :
    scannedLines m palette fs (file :: rest) = first ++ scannedLines m palette fs rest := by
  rw [scannedLines, List.flatMap_cons, hscan, Scanner.linesWritten_emitted, scannedLines]

theorem scanFiles_reliable (flushes : Nat) (totals : SearchTotals) (files : List WalkedFile) :
    ∃ totals', scanFiles ⟨m, palette, .reliable⟩ fs flushes totals files =
      (Scanner.emitted (scannedLines m palette fs files), .ok totals') := by
  induction files generalizing flushes totals with
  | nil => exact ⟨totals, rfl⟩
  | cons file rest ih =>
    obtain ⟨first, stats, hscan, -⟩ :=
      Scanner.exists_scan_reliable m palette file.path 0 (fs.readerOf file.path)
    obtain ⟨totals', hrest⟩ := ih (flushes + flushCount (Scanner.emitted first))
      ⟨totals.files + 1, totals.stats.add stats⟩
    refine ⟨totals', ?_⟩
    rw [scannedLines_cons m palette fs hscan, Scanner.emitted_append]
    simp only [scanFiles, Scanner.scan_reliable m palette file.path flushes, hscan, hrest]

/-- Scanning files into a failing sink is scanning them into one that takes everything, cut where the room ends. -/
theorem scanFiles_failing (flushes : Nat) (totals : SearchTotals) (files : List WalkedFile) :
    let lines := scannedLines m palette fs files
    let room := f.flushes - flushes
    scanFiles ⟨m, palette, ⟨some f⟩⟩ fs flushes totals files =
      (f.received room lines,
        if lines.length ≤ room then (scanFiles ⟨m, palette, .reliable⟩ fs flushes totals files).2
        else .error f.fault) := by
  induction files generalizing flushes totals with
  | nil =>
    intro lines room
    have hnothing : f.received room [] = [] := SinkFailure.received_of_le (Nat.zero_le _)
    exact Prod.ext hnothing.symm rfl
  | cons file rest ih =>
    intro lines room
    obtain ⟨first, stats, hscan, -⟩ :=
      Scanner.exists_scan_reliable m palette file.path 0 (fs.readerOf file.path)
    have hlines : lines = first ++ scannedLines m palette fs rest := scannedLines_cons m palette fs hscan
    have hfirst : linesWritten (Scanner.emitted first) = first := Scanner.linesWritten_emitted first
    rw [hlines]
    by_cases hroom : first.length ≤ room
    · -- the file has room, and the rest finds what it leaves
      have hcut : Scanner.scan ⟨m, palette, ⟨some f⟩⟩ file.path flushes (fs.readerOf file.path) =
          ⟨Scanner.emitted first, .ok stats⟩ := by
        rw [Scanner.scan_eq_cutAt, hscan]
        exact ScanResult.cutAt_of_le (by rwa [hfirst])
      have hleft : f.flushes - (flushes + first.length) = room - first.length := by omega
      have hlength : (first ++ scannedLines m palette fs rest).length ≤ room ↔
          (scannedLines m palette fs rest).length ≤ room - first.length := by
        rw [List.length_append]
        omega
      simp only [scanFiles, hcut, Scanner.scan_reliable m palette file.path flushes, hscan, flushCount_emitted, ih,
        hleft, hlength, SinkFailure.received_append_of_le hroom]
    · -- the sink fails within the file
      have hlt : room < first.length := Nat.lt_of_not_le hroom
      have hcut : Scanner.scan ⟨m, palette, ⟨some f⟩⟩ file.path flushes (fs.readerOf file.path) =
          ⟨f.received room first, .error f.fault⟩ := by
        rw [Scanner.scan_eq_cutAt, hscan, ScanResult.cutAt_of_lt (by rwa [hfirst]), hfirst]
      have hlength : ¬ (first ++ scannedLines m palette fs rest).length ≤ room := by
        rw [List.length_append]
        omega
      rw [if_neg hlength, SinkFailure.received_append_of_lt hlt]
      simp only [scanFiles, hcut]

end Scanning

/-! ### Walking and scanning -/

variable {env : Environment} {o : Options}

/-- The lines that a search with its configuration shows: those that the scans of the walked files write, in the order
of the walk. -/
def shownLines (env : Environment) (o : Options) (c : Config) : List Text :=
  let p := planOf env o c
  scannedLines p.scanner.matcher p.scanner.palette env.files (env.files.walk p.walk p.path).files

/-- The log of a search up to the scans of the files. -/
private def openingLog (p : SearchPlan) (log : List LogEvent) : List LogEvent :=
  log ++ (p.walk.warnings.map fun w => ⟨.warn, .walk, w⟩) ++ [startEvent p]

private theorem execute_of_ok (p : SearchPlan) (log : List LogEvent) {output : List OutputEvent}
    {totals : SearchTotals}
    (h : scanFiles p.scanner env.files 0 {} (env.files.walk p.walk p.path).files = (output, .ok totals)) :
    execute env p log =
      ⟨output, openingLog p log ++ [endEvent totals (env.files.walk p.walk p.path)], .ok ()⟩ := by
  simp only [execute, h, openingLog]

private theorem execute_of_error (p : SearchPlan) (log : List LogEvent) {output : List OutputEvent} {fault : Fault}
    (h : scanFiles p.scanner env.files 0 {} (env.files.walk p.walk p.path).files = (output, .error fault)) :
    execute env p log = ⟨output, openingLog p log, .error { failure := .output fault }⟩ := by
  simp only [execute, h, openingLog]

/-- A failing sink cuts the output of a search off, and a search whose output is cut off fails.  What it has logged
until then is what it would have logged. -/
theorem execute_of_sink (env : Environment) (o : Options) (c : Config) (log : List LogEvent) :
    let lines := shownLines env o c
    let run (sink : Sink) : SearchResult := execute env (planOf { env with sink } o c) log
    (run .reliable).output = Scanner.emitted lines ∧ (run .reliable).outcome = .ok () ∧
      ∀ f, (run ⟨some f⟩).output = f.received f.flushes lines ∧
        (run ⟨some f⟩).outcome =
          (if lines.length ≤ f.flushes then .ok () else .error { failure := .output f.fault }) ∧
        (run ⟨some f⟩).log <+: (run .reliable).log := by
  intro lines run
  let m := (planOf env o c).scanner.matcher
  let palette := (planOf env o c).scanner.palette
  let files := (env.files.walk (planOf env o c).walk (planOf env o c).path).files
  obtain ⟨totals, hscan⟩ := scanFiles_reliable m palette env.files 0 {} files
  have hwhole : run .reliable = _ := execute_of_ok (planOf { env with sink := .reliable } o c) log hscan
  refine ⟨congrArg SearchResult.output hwhole, congrArg SearchResult.outcome hwhole, fun f => ?_⟩
  have hcut : scanFiles ⟨m, palette, ⟨some f⟩⟩ env.files 0 {} files =
      (f.received f.flushes lines, if lines.length ≤ f.flushes then .ok totals else .error f.fault) := by
    rw [scanFiles_failing, hscan]
    rfl
  by_cases hroom : lines.length ≤ f.flushes
  · rw [if_pos hroom] at hcut ⊢
    have hr : run ⟨some f⟩ = _ := execute_of_ok (planOf { env with sink := ⟨some f⟩ } o c) log hcut
    rw [hr, hwhole]
    exact ⟨rfl, rfl, List.prefix_refl _⟩
  · rw [if_neg hroom] at hcut ⊢
    have hr : run ⟨some f⟩ = _ := execute_of_error (planOf { env with sink := ⟨some f⟩ } o c) log hcut
    rw [hr, hwhole]
    exact ⟨rfl, rfl, List.prefix_append _ _⟩

/-! ### The end of a search -/

theorem FirstRejection.passes_keyword {c : Check} {f : SearchFailure} (h : FirstRejection env o c f)
    (hc : c ≠ .keyword) : Passes env o .keyword := by
  obtain ⟨-, before, after, hall, hpasses⟩ := h
  cases before with
  | nil =>
    cases hall
    exact absurd rfl hc
  | cons b before =>
    obtain ⟨rfl, -⟩ := List.cons.inj hall
    exact hpasses _ List.mem_cons_self

/-- A search that a check ends.  The sink makes no difference to it. -/
private theorem ends_of_rejection {c : Check} {f : SearchFailure} (hfirst : FirstRejection env o c f)
    (log : List LogEvent) :
    let r : SearchResult := { log, outcome := .error f }
    (r.status.code = 2 ↔ ∃ f, Rejects env o .keyword f) ∧
      (r.status.code = 1 ↔ Passes env o .keyword ∧ ∃ c f, Rejects env o c f) ∧
      r.errorLines = ("error: ".toList ++ f.report) :: f.hint := by
  intro r
  obtain ⟨hstatus, hpipe⟩ := hfirst.1.failure
  obtain ⟨hends, hlines⟩ := SearchResult.ends_of_failure (r := r) rfl hpipe
  rw [hends, hstatus]
  by_cases hc : c = .keyword
  · subst hc
    refine ⟨⟨fun _ => ⟨f, hfirst.1⟩, fun _ => rfl⟩, ⟨fun hcode => ?_, fun hpasses => ?_⟩, hlines⟩
    · cases hcode
    · exact absurd hfirst.1 (hpasses.1 f)
  · have hpasses := hfirst.passes_keyword hc
    rw [if_neg hc]
    refine ⟨⟨fun hcode => ?_, fun ⟨f', hf'⟩ => ?_⟩, ⟨fun _ => ⟨hpasses, c, f, hfirst.1⟩, fun _ => rfl⟩, hlines⟩
    · cases hcode
    · exact absurd hf' (hpasses f')

/-- A search that no check ends and whose output takes everything. -/
private theorem ends_of_passes {r : SearchResult} (hpasses : ∀ c, Passes env o c) (hr : r.outcome = .ok ()) :
    (r.status.code = 2 ↔ ∃ f, Rejects env o .keyword f) ∧
      (r.status.code = 1 ↔ Passes env o .keyword ∧ ∃ c f, Rejects env o c f) ∧
      r.status.code = 0 ∧ r.errorLines = [] := by
  obtain ⟨hstatus, herrors⟩ := SearchResult.ends_of_ok hr
  rw [hstatus]
  refine ⟨⟨fun hcode => ?_, fun ⟨f, hf⟩ => absurd hf (hpasses _ f)⟩,
    ⟨fun hcode => ?_, fun ⟨_, c, f, hf⟩ => absurd hf (hpasses c f)⟩, rfl, herrors⟩
  · cases hcode
  · cases hcode

/-- A search whose reader has gone, or whose output fails in another way, beside one that has everything written. -/
private theorem ends_of_sink {whole r : SearchResult} {lines : List Text} {f : SinkFailure}
    (hwhole : whole.outcome = .ok ())
    (hr : r.outcome = if lines.length ≤ f.flushes then .ok () else .error { failure := .output f.fault }) :
    (f.fault.isBrokenPipe = true → r.status = whole.status ∧ r.errorLines = whole.errorLines) ∧
      (f.fault.isBrokenPipe = false → (r.status ≠ whole.status ↔ f.flushes < lines.length) ∧
        (r.status ≠ whole.status → r.status.code = 1)) := by
  obtain ⟨hstatus, herrors⟩ := SearchResult.ends_of_ok hwhole
  rw [hstatus, herrors]
  by_cases hroom : lines.length ≤ f.flushes
  · rw [if_pos hroom] at hr
    obtain ⟨hstatus', herrors'⟩ := SearchResult.ends_of_ok hr
    rw [hstatus', herrors']
    have hnot : ¬ f.flushes < lines.length := Nat.not_lt.2 hroom
    simp [hnot]
  · rw [if_neg hroom] at hr
    refine ⟨fun hpipe => SearchResult.ends_of_broken_pipe hr hpipe, fun hpipe => ?_⟩
    have hstatus' : r.status = .error := (SearchResult.ends_of_failure hr hpipe).1
    rw [hstatus']
    exact ⟨⟨fun _ => Nat.lt_of_not_le hroom, fun _ => by decide⟩, fun _ => rfl⟩

theorem runProgram_of_parse (env : Environment) {args : List Bytes}
    (hparse : CommandLine.parse args env.config = .ok o) :
    runProgram env args = .search (linesWritten (run env o).output)
      ((run env o).diagnostics (.ofEnvironment env.logFilter (o.has .verbose))) (run env o).status := by
  simp only [runProgram, hparse]

/-- A search that writes into a sink that takes everything ends with 2 if its keyword is rejected, and otherwise with
1 if a check rejects something; then nothing is written and the first rejection is reported.  Otherwise it ends with 0
and shows the lines of the walked files.  A failing sink receives the start of those lines.  If only the reader of the
output goes away, the status and the report stay the same.  Another failure changes the status, to 1, if there are more
lines than the sink takes: if it takes none, as soon as there is a line. -/
theorem run_ends (env : Environment) (o : Options) :
    let run (sink : Sink) : SearchResult := Search.run { env with sink } o
    let whole := run .reliable
    let hits := linesWritten whole.output
    (∀ args sink, CommandLine.parse args env.config = .ok o →
        runProgram { env with sink } args = .search (linesWritten (run sink).output)
          ((run sink).diagnostics (.ofEnvironment env.logFilter (o.has .verbose))) (run sink).status) ∧
      (whole.status.code = 2 ↔ ∃ f, Rejects env o .keyword f) ∧
      (whole.status.code = 1 ↔ Passes env o .keyword ∧ ∃ c f, Rejects env o c f) ∧
      ((∃ c f, Rejects env o c f) → ∃ c f, FirstRejection env o c f ∧ ∀ sink, (run sink).output = [] ∧
        (run sink).errorLines = ("error: ".toList ++ f.report) :: f.hint) ∧
      ((∀ c, Passes env o c) → whole.status.code = 0 ∧ whole.errorLines = [] ∧
        ∃ config, HasConfig env o config ∧ hits = shownLines env o config) ∧
      (∀ f, (run ⟨some f⟩).output = f.received f.flushes hits) ∧
      (∀ f, f.fault.isBrokenPipe = true → (run ⟨some f⟩).status = whole.status ∧
        (run ⟨some f⟩).errorLines = whole.errorLines ∧ (run ⟨some f⟩).log <+: whole.log) ∧
      ∀ f, f.fault.isBrokenPipe = false → ((run ⟨some f⟩).status ≠ whole.status ↔ f.flushes < hits.length) ∧
        ((run ⟨some f⟩).status ≠ whole.status → (run ⟨some f⟩).status.code = 1) := by
  intro run whole hits
  refine ⟨fun args sink hparse => runProgram_of_parse { env with sink } hparse, ?_⟩
  rcases run_cases env o with ⟨c, f, log, hfirst, hrun⟩ | ⟨hpasses, config, log, hconfig, hrun⟩
  · have hr : ∀ sink, run sink = { log, outcome := .error f } := hrun
    have hwhole : whole = { log, outcome := .error f } := hr .reliable
    obtain ⟨husage, herror, hlines⟩ := ends_of_rejection hfirst log
    have hhits : hits = [] := congrArg (fun r => linesWritten r.output) hwhole
    rw [hhits, hwhole]
    refine ⟨husage, herror, fun _ => ⟨c, f, hfirst, fun sink => ?_⟩, fun hpasses => ?_, fun f => ?_, fun f _ => ?_,
      fun f _ => ?_⟩
    · rw [hr]
      exact ⟨rfl, hlines⟩
    · exact absurd hfirst.1 (hpasses c f)
    · rw [hr, SinkFailure.received_of_le (Nat.zero_le _)]
      rfl
    · rw [hr]
      exact ⟨rfl, rfl, List.prefix_refl _⟩
    · rw [hr]
      simp
  · have hr : ∀ sink, run sink = execute env (planOf { env with sink } o config) log := hrun
    obtain ⟨houtput, hok, hsink⟩ := execute_of_sink env o config log
    simp only [← hr] at houtput hok hsink
    obtain ⟨husage, herror, hsuccess, hlines⟩ := ends_of_passes hpasses hok
    have hhits : hits = shownLines env o config := by
      show linesWritten (run .reliable).output = _
      rw [houtput, Scanner.linesWritten_emitted]
    have hends := fun f => ends_of_sink hok (hsink f).2.1
    refine ⟨husage, herror, fun ⟨c, f, hf⟩ => absurd hf (hpasses c f),
      fun _ => ⟨hsuccess, hlines, config, hconfig, hhits⟩, fun f => ?_, fun f hf => ?_, fun f hf => ?_⟩
    · rw [hhits]
      exact (hsink f).1
    · obtain ⟨hsame, hreport⟩ := (hends f).1 hf
      exact ⟨hsame, hreport, (hsink f).2.2⟩
    · rw [hhits]
      exact (hends f).2 hf

end Search

end KeywordFinder
