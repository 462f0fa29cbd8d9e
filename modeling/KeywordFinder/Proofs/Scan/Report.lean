import KeywordFinder.Proofs.Line.Fragments
import KeywordFinder.Proofs.Scan.Lines
import KeywordFinder.Proofs.Text.Utf8
import KeywordFinder.Scan.Scanner

/-!
# What a scan reports

A scan into a sink that takes everything writes the lines of the content that the matcher finds, each with its path
and number and followed by a flush, and counts what it has seen (`Scanner.scan_reports_lines`).  With the plain
palette a line is shown as it stands in the file (`Scanner.display_plain`).  One line of a scan does as much as
`Scanner.scanLines_cons` says, and a whole run follows by induction (`Scanner.scanLines_eq`).
-/

namespace KeywordFinder

/-! ### Reported lines -/

/-- Whether a byte string is valid UTF-8. -/
def IsUtf8 (s : Bytes) : Prop := ∃ t, encode t = s

instance (s : Bytes) : Decidable (IsUtf8 s) :=
  decidable_of_iff ((decode? s).isSome = true) (by simp only [Option.isSome_iff_exists, decode?_eq_some_iff, IsUtf8])

theorem not_isUtf8_iff {s : Bytes} : ¬ IsUtf8 s ↔ decode? s = none := by
  rw [Option.eq_none_iff_forall_ne_some]
  simp only [IsUtf8, ← decode?_eq_some_iff, not_exists]

/-- Whether a matcher reports a line: it is valid UTF-8 and matches. -/
def Matcher.Reports (m : Matcher) (line : Bytes) : Prop := ∃ t, encode t = line ∧ (m.find? t).isSome = true

theorem Matcher.reports_iff {m : Matcher} {line : Bytes} :
    m.Reports line ↔ ((decode? line).bind m.find?).isSome = true := by
  simp only [Matcher.Reports, ← decode?_eq_some_iff, Option.isSome_iff_exists, Option.bind_eq_some_iff]
  constructor
  · rintro ⟨t, ht, r, hr⟩
    exact ⟨r, t, ht, hr⟩
  · rintro ⟨r, t, ht, hr⟩
    exact ⟨t, ht, r, hr⟩

instance (m : Matcher) (line : Bytes) : Decidable (m.Reports line) := decidable_of_iff _ Matcher.reports_iff.symm

/-- A line as it is reported: the path, the number, and the line as it stands in the file. -/
def reportedLine (path : Bytes) (number : Nat) (line : Bytes) : Bytes :=
  encode (decodeLossy path) ++ bytes " :" ++ encode (Nat.toDigits 10 number) ++ bytes "\t" ++ line ++ [lineFeed]

namespace Scanner

/-- With the plain palette a match is displayed as its line. -/
theorem display_plain {m : Matcher} {sink : Sink} {line : Text} {r : Match} (h : m.find? line = some r)
    (path : Bytes) (number : Nat) :
    display ⟨m, .plain, sink⟩ path number r =
      decodeLossy path ++ [' ', ':'] ++ Nat.toDigits 10 number ++ '\t' :: line := by
  obtain ⟨role, -, hmatch⟩ := Matcher.exists_of_find? h
  rw [display, Hit.render_plain, flatten_fragments_of_match? hmatch, Hit.header, List.append_assoc,
    List.singleton_append]

/-! ### One line and a whole run -/

/-- What a scan displays for a line, if it reports it. -/
def displayLine? (s : Scanner) (path : Bytes) (number : Nat) (raw : Bytes) : Option Text := do
  let line ← decode? raw
  let m ← s.matcher.find? line
  return s.display path number m

/-- What a scan displays for numbered lines. -/
def displayLines (s : Scanner) (path : Bytes) (lines : List (Bytes × Nat)) : List Text :=
  lines.filterMap fun p => s.displayLine? path p.2 p.1

/-- A scan writes each displayed line and flushes right after it. -/
def emitted (lines : List Text) : List OutputEvent := lines.flatMap fun line => [.wrote line, .flushed]

theorem emitted_append (lines more : List Text) : emitted (lines ++ more) = emitted lines ++ emitted more :=
  List.flatMap_append

variable {s : Scanner} {path raw : Bytes}

/-- One line of a scan: it is counted, and given to the sink if it is reported.  The scan goes on unless the sink
fails. -/
theorem scanLines_step (flushes : Nat) (stats : ScanStats) (rest : List Bytes) :
    s.scanLines path flushes stats (raw :: rest) =
      match s.displayLine? path (stats.lines + 1) raw with
      | none =>
        s.scanLines path flushes (stats.add ⟨1, if IsUtf8 raw then 0 else 1, 0⟩) rest
      | some line =>
        match s.sink.emit flushes line with
        | (events, some fault) => ⟨events, .error fault⟩
        | (events, none) =>
          (s.scanLines path (flushes + 1) (stats.add ⟨1, if IsUtf8 raw then 0 else 1, 1⟩) rest).after events := by
  rw [scanLines]
  cases hd : decode? raw with
  | none =>
    simp [displayLine?, hd, if_neg (not_isUtf8_iff.2 hd), ScanStats.add]
  | some line =>
    have hvalid : IsUtf8 raw := ⟨line, decode?_eq_some_iff.1 hd⟩
    cases hf : s.matcher.find? line with
    | none => simp [displayLine?, hd, hf, hvalid, ScanStats.add]
    | some m =>
      simp only [displayLine?, hd, hf, hvalid, if_true, Option.bind_eq_bind, Option.bind_some, Option.pure_def,
        ScanStats.add]
      rcases s.sink.emit flushes (s.display path (stats.lines + 1) m) with ⟨events, _ | fault⟩ <;> rfl

/-- One line of a scan into a sink that takes everything: it is counted, and written and flushed if it is
reported. -/
theorem scanLines_cons (hs : s.sink = .reliable) (flushes : Nat) (stats : ScanStats) (rest : List Bytes) :
    s.scanLines path flushes stats (raw :: rest) =
      match s.displayLine? path (stats.lines + 1) raw with
      | none =>
        s.scanLines path flushes (stats.add ⟨1, if IsUtf8 raw then 0 else 1, 0⟩) rest
      | some line =>
        (s.scanLines path (flushes + 1) (stats.add ⟨1, if IsUtf8 raw then 0 else 1, 1⟩) rest).after
          [.wrote line, .flushed] := by
  rw [scanLines_step, hs]
  rfl

/-- A run of a scan into a sink that takes everything. -/
theorem scanLines_eq (hs : s.sink = .reliable) (flushes : Nat) (stats : ScanStats) (lines : List Bytes) :
    s.scanLines path flushes stats lines =
      ⟨emitted (s.displayLines path (lines.zipIdx (stats.lines + 1))),
        .ok (stats.add ⟨lines.length, lines.countP (¬ IsUtf8 ·),
          (s.displayLines path (lines.zipIdx (stats.lines + 1))).length⟩)⟩ := by
  induction lines generalizing flushes stats with
  | nil => rfl
  | cons raw rest ih =>
    have hcount : (raw :: rest).countP (¬ IsUtf8 ·) =
        (if IsUtf8 raw then 0 else 1) + rest.countP (¬ IsUtf8 ·) := by
      rw [List.countP_cons, Nat.add_comm]
      by_cases h : IsUtf8 raw <;> simp [h]
    rw [scanLines_cons hs, List.zipIdx_cons, hcount, List.length_cons]
    cases hd : s.displayLine? path (stats.lines + 1) raw with
    | none =>
      have hlines : s.displayLines path ((raw, stats.lines + 1) :: rest.zipIdx (stats.lines + 1 + 1)) =
          s.displayLines path (rest.zipIdx (stats.lines + 1 + 1)) := List.filterMap_cons_none hd
      simp only [ih, hlines, ScanStats.add, Nat.zero_add, Nat.add_assoc, Nat.add_comm 1]
    | some line =>
      have hlines : s.displayLines path ((raw, stats.lines + 1) :: rest.zipIdx (stats.lines + 1 + 1)) =
          line :: s.displayLines path (rest.zipIdx (stats.lines + 1 + 1)) := List.filterMap_cons_some hd
      simp only [ih, hlines, ScanStats.add, ScanResult.after, emitted, List.flatMap_cons, List.length_cons,
        Nat.add_assoc, Nat.add_comm 1]

/-! ### The report of a file -/

/-- With the plain palette a reported line is displayed as it stands in the file, and no other line is displayed. -/
private theorem displayLine?_plain (m : Matcher) (sink : Sink) (path : Bytes) (number : Nat) (raw : Bytes) :
    (displayLine? ⟨m, .plain, sink⟩ path number raw).map (fun line => encode line ++ [lineFeed]) =
      if m.Reports raw then some (reportedLine path number raw) else none := by
  rw [displayLine?]
  cases hd : decode? raw with
  | none =>
    have hr : ¬ m.Reports raw := by
      rw [Matcher.reports_iff, hd]
      exact Bool.false_ne_true
    rw [if_neg hr]
    rfl
  | some line =>
    cases hf : m.find? line with
    | none =>
      have hr : ¬ m.Reports raw := by
        rw [Matcher.reports_iff, hd, Option.bind_some, hf]
        exact Bool.false_ne_true
      rw [if_neg hr]
      simp [hf]
    | some r =>
      have hr : m.Reports raw := by
        rw [Matcher.reports_iff, hd, Option.bind_some, hf]
        rfl
      have hraw : encode line = raw := decode?_eq_some_iff.1 hd
      rw [if_pos hr]
      simp only [Option.bind_eq_bind, Option.bind_some, hf, Option.pure_def, Option.map_some, Option.some.injEq]
      have htab : encode ('\t' :: line) = bytes "\t" ++ encode line := encode_append ['\t'] line
      rw [display_plain hf, encode_append, encode_append, encode_append, htab, reportedLine, ← hraw,
        ← List.append_assoc _ (bytes "\t")]
      rfl

private theorem displayLines_plain (m : Matcher) (sink : Sink) (path : Bytes) (lines : List (Bytes × Nat)) :
    (displayLines ⟨m, .plain, sink⟩ path lines).map (fun line => encode line ++ [lineFeed]) =
      (lines.filter fun p => m.Reports p.1).map fun p => reportedLine path p.2 p.1 := by
  rw [displayLines, List.map_filterMap, ← List.filterMap_eq_map, List.filterMap_filter]
  congr 1
  funext p
  rw [displayLine?_plain]
  simp

theorem linesWritten_emitted (lines : List Text) : linesWritten (emitted lines) = lines := by
  induction lines with
  | nil => rfl
  | cons line lines ih =>
    rw [emitted, List.flatMap_cons]
    exact congrArg (line :: ·) ih

/-- A scan of a content that is read without a fault, into a sink that takes everything, writes the lines that are
valid UTF-8 and match, in their order with path and number, flushes after each of them and nowhere else, and counts
the lines, those that are not valid UTF-8 and those written. -/
theorem scan_reports_lines (m : Matcher) (path : Bytes) (flushes : Nat) {events : List ReadEvent}
    (h : .failure ∉ events) :
    let lines := universalLines (delivered events)
    let hits := (lines.zipIdx 1).filter fun p => m.Reports p.1
    let r := scan ⟨m, .plain, .reliable⟩ path flushes events
    (linesWritten r.events).map (fun line => encode line ++ [lineFeed]) =
        hits.map (fun p => reportedLine path p.2 p.1) ∧
      r.events = (linesWritten r.events).flatMap (fun line => [.wrote line, .flushed]) ∧
      r.outcome = .ok ⟨lines.length, lines.countP (¬ IsUtf8 ·), hits.length⟩ := by
  intro lines hits r
  have hlines : linesRead events = lines := by rw [linesRead_eq, linedContent, if_neg h]
  have hr : r = ⟨emitted (displayLines ⟨m, .plain, .reliable⟩ path (lines.zipIdx 1)), .ok ⟨lines.length,
      lines.countP (¬ IsUtf8 ·), (displayLines ⟨m, .plain, .reliable⟩ path (lines.zipIdx 1)).length⟩⟩ := by
    show scan _ path flushes events = _
    rw [scan, hlines, scanLines_eq rfl]
    simp [ScanStats.add]
  have hplain := displayLines_plain m .reliable path (lines.zipIdx 1)
  have hhits : (displayLines ⟨m, .plain, .reliable⟩ path (lines.zipIdx 1)).length = hits.length := by
    have hlength := congrArg List.length hplain
    rwa [List.length_map, List.length_map] at hlength
  rw [hr]
  dsimp only
  rw [linesWritten_emitted]
  exact ⟨hplain, rfl, by rw [hhits]⟩

/-- The chunks are cut between a carriage return and its line feed, and one line is not valid UTF-8. -/
theorem scan_reports_lines_across_chunks :
    let m : Matcher := ⟨⟨['x'], false⟩, Role.all⟩
    let path : Bytes := bytes "a.py"
    let events : List ReadEvent :=
      [.chunk (bytes "x = 1\r"), .interruption, .chunk (bytes "\n\rno\r" ++ [0xFF, lineFeed] ++ bytes "(x)")]
    let lines := universalLines (delivered events)
    let hits := (lines.zipIdx 1).filter fun p => m.Reports p.1
    let r := scan ⟨m, .plain, .reliable⟩ path 0 events
    .failure ∉ events ∧ lines = [bytes "x = 1", [], bytes "no", [0xFF], bytes "(x)"] ∧
      hits = [(bytes "x = 1", 1), (bytes "(x)", 5)] ∧
      (linesWritten r.events).map (fun line => encode line ++ [lineFeed]) =
        hits.map (fun p => reportedLine path p.2 p.1) ∧
      r.events = (linesWritten r.events).flatMap (fun line => [.wrote line, .flushed]) ∧
      r.outcome = .ok ⟨lines.length, lines.countP (¬ IsUtf8 ·), hits.length⟩ := by
  intro m path events lines hits r
  have h : .failure ∉ events := by decide
  exact ⟨h, by decide +kernel, by decide +kernel, scan_reports_lines m path 0 h⟩

end Scanner

end KeywordFinder
