import KeywordFinder.Display.Rendering
import KeywordFinder.Files.Tree
import KeywordFinder.Line.Matcher
import KeywordFinder.Scan.Reading
import KeywordFinder.Scan.Sink

/-!
# Scanning files

The lines of a file are counted and matched in order, and each hit is written and flushed as soon as it
is found.  Lines that are not valid UTF-8 are counted and passed over.  Only a fault of the sink ends a
scan early.
-/

namespace KeywordFinder

/-- What a reader of the file at a path delivers.  A directory fails to be read, and a path that leads
nowhere delivers nothing. -/
def FileSystem.readerOf (fs : FileSystem) (p : Path) : List ReadEvent :=
  match fs.entry? p with
  | some (.file content) => inOneChunk content
  | some _ => [.failure]
  | none => []

/-- What a scan has counted. -/
structure ScanStats where
  /-- Lines read, undecodable ones included. -/
  lines : Nat := 0
  /-- Lines that are not valid UTF-8. -/
  undecodable : Nat := 0
  /-- Lines written. -/
  hits : Nat := 0
deriving DecidableEq, Repr

namespace ScanStats

/-- The counts of two scans together. -/
def add (a b : ScanStats) : ScanStats :=
  ⟨a.lines + b.lines, a.undecodable + b.undecodable, a.hits + b.hits⟩

end ScanStats

/-- What comes of a scan: what reached the output, and the counts or the fault that ended it. -/
structure ScanResult where
  events : List OutputEvent
  outcome : Except Fault ScanStats

/-- Puts earlier output in front of a result. -/
def ScanResult.after (events : List OutputEvent) (r : ScanResult) : ScanResult :=
  { r with events := events ++ r.events }

/-- A matcher, the colours of its hits and the sink they go to. -/
structure Scanner where
  matcher : Matcher
  palette : Palette
  sink : Sink

namespace Scanner

/-- The displayed line of a hit. -/
def display (s : Scanner) (path : Bytes) (lineNumber : Nat) (m : Match) : Text :=
  Hit.render ⟨path, lineNumber, s.matcher.keyword.text, m.fragments, m.keywordIndex⟩ s.palette

/-- Scans lines after some are counted and a number of flushes are done. -/
def scanLines (s : Scanner) (path : Bytes) (flushes : Nat) (stats : ScanStats) :
    List Bytes → ScanResult
  | [] => ⟨[], .ok stats⟩
  | raw :: rest =>
    let counted := { stats with lines := stats.lines + 1 }
    match decode? raw with
    | none =>
      s.scanLines path flushes { counted with undecodable := stats.undecodable + 1 } rest
    | some line =>
      match s.matcher.find? line with
      | none => s.scanLines path flushes counted rest
      | some m =>
        match s.sink.emit flushes (s.display path counted.lines m) with
        | (events, some fault) => ⟨events, .error fault⟩
        | (events, none) =>
          (s.scanLines path (flushes + 1) { counted with hits := stats.hits + 1 } rest).after events

/-- Scans what a reader delivers, after a number of flushes. -/
def scan (s : Scanner) (path : Bytes) (flushes : Nat) (events : List ReadEvent) : ScanResult :=
  s.scanLines path flushes {} (linesRead events)

/-- Scans files in order into one sink, going on after a fault. -/
def scanAll (s : Scanner) (flushes : Nat) : List (Bytes × List ReadEvent) → List ScanResult
  | [] => []
  | (path, events) :: rest =>
    let r := s.scan path flushes events
    r :: s.scanAll (flushes + flushCount r.events) rest

end Scanner

end KeywordFinder
