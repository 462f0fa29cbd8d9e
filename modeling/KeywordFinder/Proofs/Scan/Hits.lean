import KeywordFinder.Proofs.Scan.Report

/-!
# Hits

What a scan writes is the display of hits (`Scanner.linesWritten_scan`).  The hits of a file do not depend on the
palette and the sink, and its path only labels them (`Matcher.hits_path`).
-/

namespace KeywordFinder

namespace Matcher

/-- The hit of a line, if it matches. -/
def hit? (m : Matcher) (path : Bytes) (number : Nat) (raw : Bytes) : Option Hit := do
  let line ← decode? raw
  let r ← m.find? line
  return ⟨path, number, m.keyword.text, r.fragments, r.keywordIndex⟩

/-- The hits in the lines of a file. -/
def hits (m : Matcher) (path : Bytes) (lines : List Bytes) : List Hit :=
  (lines.zipIdx 1).filterMap fun p => m.hit? path p.2 p.1

variable {m : Matcher} {path raw : Bytes} {number : Nat} {lines : List Bytes} {h : Hit}

theorem hit?_eq_some_iff : m.hit? path number raw = some h ↔
    ∃ line r, encode line = raw ∧ m.find? line = some r ∧
      h = ⟨path, number, m.keyword.text, r.fragments, r.keywordIndex⟩ := by
  rw [hit?, Option.bind_eq_bind, Option.bind_eq_some_iff]
  simp only [decode?_eq_some_iff, Option.bind_eq_bind, Option.bind_eq_some_iff, Option.pure_def, Option.some.injEq]
  constructor
  · rintro ⟨line, hline, r, hr, rfl⟩
    exact ⟨line, r, hline, hr, rfl⟩
  · rintro ⟨line, r, hline, hr, rfl⟩
    exact ⟨line, hline, r, hr, rfl⟩

/-- A hit shows the path of its file, and its fragments are a line of the file. -/
theorem exists_of_mem_hits (h' : h ∈ m.hits path lines) :
    h.path = path ∧ ∃ line, encode line ∈ lines ∧ h.fragments.flatten = line := by
  obtain ⟨p, hp, hhit⟩ := List.mem_filterMap.1 h'
  obtain ⟨line, r, hline, hfind, rfl⟩ := hit?_eq_some_iff.1 hhit
  obtain ⟨role, -, hmatch⟩ := exists_of_find? hfind
  refine ⟨rfl, line, ?_, flatten_fragments_of_match? hmatch⟩
  rw [hline]
  exact List.fst_mem_of_mem_zipIdx hp

end Matcher

namespace Scanner

theorem displayLine?_eq (s : Scanner) (path : Bytes) (number : Nat) (raw : Bytes) :
    s.displayLine? path number raw = (s.matcher.hit? path number raw).map (·.render s.palette) := by
  rw [displayLine?, Matcher.hit?]
  cases decode? raw with
  | none => rfl
  | some line => cases hfind : s.matcher.find? line <;> simp [hfind, display]

/-- A scan into a sink that takes everything writes the display of the hits. -/
theorem linesWritten_scan (m : Matcher) (palette : Palette) (path : Bytes) (flushes : Nat) (events : List ReadEvent) :
    linesWritten (scan ⟨m, palette, .reliable⟩ path flushes events).events =
      (m.hits path (linesRead events)).map (·.render palette) := by
  have hdisplay : ∀ lines : List (Bytes × Nat), displayLines ⟨m, palette, .reliable⟩ path lines =
      (lines.filterMap fun p => m.hit? path p.2 p.1).map (·.render palette) := by
    intro lines
    rw [displayLines, List.map_filterMap]
    congr 1
    funext p
    exact displayLine?_eq ..
  rw [scan, scanLines_eq rfl, linesWritten_emitted, hdisplay]
  rfl

end Scanner

end KeywordFinder
