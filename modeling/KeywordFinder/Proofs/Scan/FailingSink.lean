import KeywordFinder.Proofs.Scan.Report

/-!
# Sinks that fail

A sink that fails once a number of flushes have succeeded has room for that many lines.  What a scan leaves in it is
the output to a sink that takes everything, cut where the room ends (`Scanner.scan_eq_cutAt`).  When files are
scanned one after another, each finds the room that those before it have left, and this is all that it sees of them
(`Scanner.scanAll_cut_at_hit`).
-/

namespace KeywordFinder

/-! ### Cutting a result -/

theorem flushCount_append (es es' : List OutputEvent) : flushCount (es ++ es') = flushCount es + flushCount es' :=
  List.count_append

theorem flushCount_emitted (lines : List Text) : flushCount (Scanner.emitted lines) = lines.length := by
  induction lines with
  | nil => rfl
  | cons line rest ih =>
    rw [Scanner.emitted, List.flatMap_cons, flushCount_append, List.length_cons, Nat.add_comm]
    exact congrArg (· + 1) ih

/-- What reaches a failing sink that has room for the given number of lines.  One more line comes through if only
flushing fails. -/
def SinkFailure.received (f : SinkFailure) (room : Nat) (lines : List Text) : List OutputEvent :=
  Scanner.emitted (lines.take room) ++ if f.onFlush then lines[room]?.toList.map .wrote else []

namespace SinkFailure

variable {f : SinkFailure} {room : Nat} {lines more : List Text}

/-- Lines that have room come through. -/
theorem received_of_le (h : lines.length ≤ room) : f.received room lines = Scanner.emitted lines := by
  rw [received, List.take_of_length_le h, List.getElem?_eq_none h]
  simp

/-- Lines that follow others find the room that those leave. -/
theorem received_append_of_le (h : lines.length ≤ room) :
    f.received room (lines ++ more) = Scanner.emitted lines ++ f.received (room - lines.length) more := by
  rw [received, received, List.take_append, List.take_of_length_le h, List.getElem?_append_right h,
    Scanner.emitted_append, List.append_assoc]

/-- Lines behind the end of the room do not matter. -/
theorem received_append_of_lt (h : room < lines.length) :
    f.received room (lines ++ more) = f.received room lines := by
  rw [received, received, List.take_append_of_le_length (Nat.le_of_lt h), List.getElem?_append_left h]

end SinkFailure

namespace ScanResult

/-- What becomes of a result if the sink fails and has room for the given number of lines. -/
def cutAt (f : SinkFailure) (room : Nat) (whole : ScanResult) : ScanResult :=
  if (linesWritten whole.events).length ≤ room then whole
  else ⟨f.received room (linesWritten whole.events), .error f.fault⟩

variable {f : SinkFailure} {room : Nat} {whole : ScanResult}

theorem cutAt_of_le (h : (linesWritten whole.events).length ≤ room) : whole.cutAt f room = whole := if_pos h

theorem cutAt_of_lt (h : room < (linesWritten whole.events).length) :
    whole.cutAt f room = ⟨f.received room (linesWritten whole.events), .error f.fault⟩ := if_neg (Nat.not_le_of_lt h)

/-- A line takes one place of the room. -/
private theorem cutAt_after_succ (line : Text) :
    (whole.after [.wrote line, .flushed]).cutAt f (room + 1) = (whole.cutAt f room).after [.wrote line, .flushed] := by
  have hlines : linesWritten (whole.after [.wrote line, .flushed]).events = line :: linesWritten whole.events := rfl
  by_cases h : (linesWritten whole.events).length ≤ room
  · have h' : (linesWritten (whole.after [.wrote line, .flushed]).events).length ≤ room + 1 := by
      rw [hlines, List.length_cons]
      exact Nat.succ_le_succ h
    rw [cutAt_of_le h, cutAt_of_le h']
  · have hlt : room < (linesWritten whole.events).length := Nat.lt_of_not_le h
    have hlt' : room + 1 < (linesWritten (whole.after [.wrote line, .flushed]).events).length := by
      rw [hlines, List.length_cons]
      exact Nat.succ_lt_succ hlt
    rw [cutAt_of_lt hlt, cutAt_of_lt hlt', hlines]
    simp only [SinkFailure.received, List.take_succ_cons, List.getElem?_cons_succ, ScanResult.after,
      ← List.append_assoc]
    rfl

/-- Without room the first line is where the sink fails. -/
private theorem cutAt_after_zero (line : Text) :
    (whole.after [.wrote line, .flushed]).cutAt f 0 = ⟨if f.onFlush then [.wrote line] else [], .error f.fault⟩ :=
  cutAt_of_lt (Nat.succ_pos _)

end ScanResult

namespace Scanner

variable (m : Matcher) (palette : Palette) (f : SinkFailure) (path : Bytes)

/-! ### One file -/

/-- A run of a scan into a failing sink is the run into a sink that takes everything, cut where the room ends. -/
theorem scanLines_eq_cutAt (flushes flushes' : Nat) (stats : ScanStats) (lines : List Bytes) :
    scanLines ⟨m, palette, ⟨some f⟩⟩ path flushes stats lines =
      (scanLines ⟨m, palette, .reliable⟩ path flushes' stats lines).cutAt f (f.flushes - flushes) := by
  induction lines generalizing flushes flushes' stats with
  | nil => exact (ScanResult.cutAt_of_le (Nat.zero_le _)).symm
  | cons raw rest ih =>
    have hshown : displayLine? ⟨m, palette, ⟨some f⟩⟩ path (stats.lines + 1) raw =
        displayLine? ⟨m, palette, .reliable⟩ path (stats.lines + 1) raw := rfl
    rw [scanLines_step, scanLines_cons rfl, hshown]
    cases displayLine? ⟨m, palette, .reliable⟩ path (stats.lines + 1) raw with
    | none => exact ih ..
    | some line =>
      by_cases hroom : flushes < f.flushes
      · have hleft : f.flushes - flushes = f.flushes - (flushes + 1) + 1 := by omega
        simp only [Sink.emit, if_pos hroom]
        rw [hleft, ScanResult.cutAt_after_succ, ← ih]
      · have hnone : f.flushes - flushes = 0 := by omega
        simp only [Sink.emit, if_neg hroom]
        rw [hnone, ScanResult.cutAt_after_zero]

theorem scan_eq_cutAt (flushes : Nat) (events : List ReadEvent) :
    scan ⟨m, palette, ⟨some f⟩⟩ path flushes events =
      (scan ⟨m, palette, .reliable⟩ path 0 events).cutAt f (f.flushes - flushes) :=
  scanLines_eq_cutAt m palette f path flushes 0 {} (linesRead events)

/-- The flushes done before do not matter to a sink that takes everything. -/
theorem scan_reliable (flushes : Nat) (events : List ReadEvent) :
    scan ⟨m, palette, .reliable⟩ path flushes events = scan ⟨m, palette, .reliable⟩ path 0 events := by
  rw [scan, scan, scanLines_eq rfl, scanLines_eq rfl]

/-- A sink that takes everything gets each reported line with a flush after it, and the lines are counted. -/
theorem exists_scan_reliable (flushes : Nat) (events : List ReadEvent) :
    ∃ lines stats, scan ⟨m, palette, .reliable⟩ path flushes events = ⟨emitted lines, .ok stats⟩ ∧
      stats.hits = lines.length := by
  refine ⟨_, _, scanLines_eq rfl flushes {} (linesRead events), ?_⟩
  simp [ScanStats.add]

/-! ### Files in order -/

variable {m palette f path} {s : Scanner}

theorem length_scanAll (flushes : Nat) (files : List (Bytes × List ReadEvent)) :
    (s.scanAll flushes files).length = files.length := by
  induction files generalizing flushes with
  | nil => rfl
  | cons file rest ih => rw [scanAll, List.length_cons, ih, List.length_cons]

/-- Files go on from the flushes of those before them. -/
theorem scanAll_append (flushes : Nat) (first second : List (Bytes × List ReadEvent)) :
    s.scanAll flushes (first ++ second) =
      s.scanAll flushes first ++
        s.scanAll (flushes + flushCount ((s.scanAll flushes first).flatMap (·.events))) second := by
  induction first generalizing flushes with
  | nil => rfl
  | cons file rest ih =>
    rw [List.cons_append, scanAll, scanAll, ih, List.cons_append, List.flatMap_cons, flushCount_append,
      Nat.add_assoc]

/-- The result of a file after those before it. -/
theorem getElem?_scanAll (before after : List (Bytes × List ReadEvent)) (path : Bytes) (events : List ReadEvent) :
    let results := s.scanAll 0 (before ++ (path, events) :: after)
    results[before.length]? =
      some (s.scan path (flushCount ((results.take before.length).flatMap (·.events))) events) := by
  intro results
  have hresults : results = s.scanAll 0 before ++ _ := scanAll_append 0 before ((path, events) :: after)
  have hlength : (s.scanAll 0 before).length = before.length := length_scanAll 0 before
  rw [hresults, ← hlength, List.take_left, List.getElem?_append_right (Nat.le_refl _), Nat.sub_self, scanAll,
    Nat.zero_add]
  rfl

/-- Files are scanned in order into a sink that fails once a number of flushes have succeeded.  A file whose lines
have room is scanned as if the sink took everything.  Any other one ends with the fault of the sink after as many
lines as there is room for, and one line without its flush if only flushing fails.  The room is all that a result
depends on besides its file. -/
theorem scanAll_cut_at_hit (m : Matcher) (palette : Palette) (f : SinkFailure)
    (before after : List (Bytes × List ReadEvent)) (path : Bytes) (events : List ReadEvent) :
    let results (before after : List (Bytes × List ReadEvent)) : List ScanResult :=
      scanAll ⟨m, palette, ⟨some f⟩⟩ 0 (before ++ (path, events) :: after)
    let room (before after : List (Bytes × List ReadEvent)) : Nat :=
      f.flushes - flushCount (((results before after).take before.length).flatMap (·.events))
    let whole := scan ⟨m, palette, .reliable⟩ path 0 events
    let hits := linesWritten whole.events
    ∃ r, (results before after)[before.length]? = some r ∧
      (hits.length ≤ room before after →
        r = whole ∧ ∃ stats, r.outcome = .ok stats ∧ stats.hits = hits.length) ∧
      (room before after < hits.length →
        r.outcome = .error f.fault ∧
          r.events = emitted (hits.take (room before after)) ++
            if f.onFlush then hits[room before after]?.toList.map .wrote else []) ∧
      ∀ before' after', room before' after' = room before after →
        (results before' after')[before'.length]? = some r := by
  intro results room whole hits
  have hresult : ∀ before after, (results before after)[before.length]? =
      some (whole.cutAt f (room before after)) := by
    intro before after
    rw [← scan_eq_cutAt]
    exact getElem?_scanAll before after path events
  refine ⟨_, hresult before after, ?_, ?_, ?_⟩
  · intro hle
    obtain ⟨lines, stats, hwhole, hstats⟩ := exists_scan_reliable m palette path 0 events
    have hhits : hits = lines := by
      show linesWritten (scan ⟨m, palette, .reliable⟩ path 0 events).events = lines
      rw [hwhole, linesWritten_emitted]
    have hall : whole.cutAt f (room before after) = whole := ScanResult.cutAt_of_le hle
    refine ⟨hall, stats, ?_, by rw [hhits, hstats]⟩
    rw [hall]
    show (scan ⟨m, palette, .reliable⟩ path 0 events).outcome = .ok stats
    rw [hwhole]
  · intro hlt
    rw [ScanResult.cutAt_of_lt hlt]
    exact ⟨rfl, rfl⟩
  · intro before' after' hroom
    rw [hresult, hroom]

end Scanner

end KeywordFinder
