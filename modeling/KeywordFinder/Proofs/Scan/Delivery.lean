import KeywordFinder.Proofs.Scan.Report

/-!
# What a scan makes of a delivery

A content may arrive in any chunks, with interruptions between them, and reading may fail.  What a scan reports
depends on the bytes that are delivered before a failure and on nothing else (`Scanner.scan_of_delivery`): all of
them count, or after a failure those up to the last line feed.  A failure takes back no line that is reported before
it, and it makes no line of what is left over.
-/

namespace KeywordFinder

/-- The lines of a content that arrives whole. -/
private theorem linesRead_inOneChunk (content : Bytes) : linesRead (inOneChunk content) = universalLines content := by
  have hlined : linedContent (inOneChunk content) = content := by simp [linedContent]
  rw [linesRead_eq, hlined]

namespace Scanner

variable {s : Scanner}

/-- Lines that follow others add to what is displayed and take nothing back. -/
theorem displayLines_append (path : Bytes) (first second : List Bytes) (number : Nat) :
    s.displayLines path ((first ++ second).zipIdx number) =
      s.displayLines path (first.zipIdx number) ++ s.displayLines path (second.zipIdx (number + first.length)) := by
  rw [displayLines, List.zipIdx_append, List.filterMap_append, Nat.add_comm number]
  rfl

/-- The output of the first lines is the start of the output of all. -/
private theorem events_isPrefix_of_append (hs : s.sink = .reliable) (path : Bytes) (flushes : Nat)
    (first second : List Bytes) :
    (s.scanLines path flushes {} first).events <+: (s.scanLines path flushes {} (first ++ second)).events := by
  rw [scanLines_eq hs, scanLines_eq hs, displayLines_append, emitted_append]
  exact List.prefix_append _ _

/-- A scan into a sink that takes everything succeeds whatever the reader does.  Without a failure it is the scan of
the bytes delivered as one chunk.  With one it is the scan of those up to the last line feed, and its output is the
start of what the bytes delivered would lead to.  Two deliveries of the same bytes lead to the same scan. -/
theorem scan_of_delivery (m : Matcher) (palette : Palette) (path : Bytes) (flushes : Nat)
    (events : List ReadEvent) :
    let scanned := scan ⟨m, palette, .reliable⟩ path flushes
    (∃ stats, (scanned events).outcome = .ok stats) ∧
      (.failure ∉ events → scanned events = scanned (inOneChunk (delivered events))) ∧
      (.failure ∈ events →
        ∃ start, LastFeedStart (delivered events) start ∧ scanned events = scanned (inOneChunk start) ∧
          (scanned events).events <+: (scanned (inOneChunk (delivered events))).events) ∧
      ∀ others, delivered others = delivered events → (.failure ∈ others ↔ .failure ∈ events) →
        scanned others = scanned events := by
  intro scanned
  have hchunk : ∀ content, scanned (inOneChunk content) =
      scanLines ⟨m, palette, .reliable⟩ path flushes {} (universalLines content) := by
    intro content
    rw [← linesRead_inOneChunk]
    rfl
  have hlined : ∀ es, scanned es = scanned (inOneChunk (linedContent es)) := by
    intro es
    rw [hchunk, ← linesRead_eq]
    rfl
  refine ⟨?_, ?_, ?_, ?_⟩
  · rw [hlined, hchunk, scanLines_eq rfl]
    exact ⟨_, rfl⟩
  · intro hfault
    have hall : linedContent events = delivered events := by rw [linedContent, if_neg hfault]
    rw [hlined, hall]
  · intro hfault
    have hpart : linedContent events = (cutAtFeeds (delivered events)).1.flatten := by
      rw [linedContent, if_pos hfault]
    refine ⟨_, lastFeedStart_cutAtFeeds (delivered events), by rw [hlined, hpart], ?_⟩
    rw [hlined, hpart, hchunk, hchunk, universalLines_cutAtFeeds (delivered events)]
    exact events_isPrefix_of_append rfl path flushes _ _
  · intro others hbytes hfaults
    have hsame : linedContent others = linedContent events := by
      simp only [linedContent, hbytes, hfaults]
    rw [hlined, hsame, ← hlined]

end Scanner

end KeywordFinder
