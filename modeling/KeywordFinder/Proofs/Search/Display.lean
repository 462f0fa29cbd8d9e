import KeywordFinder.Proofs.Display.Commands
import KeywordFinder.Proofs.Search.Comparison
import KeywordFinder.Proofs.Walk.Absence

/-!
# Colours and logging

Colours and logging do not change what a search shows: without the terminal commands, two searches that differ only in
them show the same and end with the same status, whatever the sink takes (`Search.runProgram_shows_same`).  The commands
can be told apart from the lines because no file and no path holds the byte that begins them.
-/

namespace KeywordFinder

/-- Two command lines ask for the same search up to colours and logging. -/
structure Options.SameButDisplay (o o' : Options) : Prop where
  keyword : o'.keyword = o.keyword
  path : o'.path = o.path
  extensions : o'.extensions = o.extensions
  excludes : o'.excludes = o.excludes
  config : o'.config = o.config
  flags : ∀ f, f ≠ .noColor → f ≠ .verbose → o'.has f = o.has f

/-- The byte of the escape character. -/
def escapeByte : UInt8 := 0x1B

private theorem encode_escape : String.utf8EncodeChar escapeCharacter = [escapeByte] := by decide

private theorem not_mem_decodeLossy {s : Bytes} (h : escapeByte ∉ s) : escapeCharacter ∉ decodeLossy s := by
  intro hmem
  have hpiece := infix_of_mem_decodeLossy hmem (by decide)
  rw [encode_escape] at hpiece
  exact h (hpiece.subset (List.mem_singleton_self _))

private theorem not_mem_of_encode {t : Text} (h : escapeByte ∉ encode t) : escapeCharacter ∉ t := by
  intro hmem
  refine h (List.mem_flatMap.2 ⟨_, hmem, ?_⟩)
  rw [encode_escape]
  exact List.mem_singleton_self _

namespace Search

variable {env : Environment} {o o' : Options}

/-- The hits in a tree without the escape byte display no escape character of their own. -/
theorem lacksEscapes_of_mem_foundHits {fs : FileSystem} (hfs : fs.root.Lacks escapeByte) {c : Config} :
    ∀ hit ∈ foundHits fs o c, hit.LacksEscapes := by
  intro hit hmem
  obtain ⟨f, hf, hhit⟩ := List.mem_flatMap.1 hmem
  obtain ⟨hpath, line, hline, hfragments⟩ := Matcher.exists_of_mem_hits hhit
  have hwalk : escapeByte ∉ f.path := FileSystem.not_mem_walk hfs (by decide) (by decide) _ _ f hf
  have hread : escapeByte ∉ encode line := FileSystem.not_mem_linesRead hfs _ hline
  refine ⟨hpath ▸ not_mem_decodeLossy hwalk, fun fragment hfragment hescape => ?_⟩
  exact not_mem_of_encode hread (hfragments ▸ List.mem_flatten.2 ⟨fragment, hfragment, hescape⟩)

/-- What reaches the sink of a search holds the same hits with colours as without. -/
private theorem withoutCommands_shown (hfs : env.files.root.Lacks escapeByte) (c : Config) :
    withoutCommands (printed (env.sink.received (shownLines env o c))) =
      printed ((env.sink.received (foundHits env.files o c)).map (·.text)) := by
  have hreceived : ∀ hit ∈ env.sink.received (foundHits env.files o c), hit.LacksEscapes := fun hit hmem =>
    lacksEscapes_of_mem_foundHits hfs hit ((Sink.received_prefix _ _).subset hmem)
  rw [shownLines_eq, Sink.received_map, withoutCommands_printed hreceived]

private theorem foundHits_congr (h : o.SameButDisplay o') (fs : FileSystem) (c : Config) :
    foundHits fs o' c = foundHits fs o c := by
  have hroles : o'.roles = o.roles := List.filter_congr fun r _ => h.flags (.only r) (by simp) (by simp)
  have hkeyword : soughtKeyword o' c = soughtKeyword o c := by
    rw [soughtKeyword, soughtKeyword, h.keyword, h.flags .ignoreCase (by simp) (by simp)]
  rw [foundHits, foundHits, h.path, h.extensions, h.excludes, hroles, hkeyword]

/-- Colours and logging have no part in the checks. -/
private theorem sameChecks (h : o.SameButDisplay o') {env' : Environment} (hfiles : env'.files = env.files) :
    SameChecks env env' o o' where
  keyword := h.keyword
  roles := List.filter_congr fun r _ => h.flags (.only r) (by simp) (by simp)
  ignoreCase := h.flags .ignoreCase (by simp) (by simp)
  path := by rw [hfiles, h.path]
  config c := by
    have hpath : configPath? env' o' = configPath? env o := by
      rw [configPath?, configPath?, hfiles, h.config, h.path]
    rw [HasConfig, HasConfig, hpath, hfiles]

/-- Two searches that differ only in colours and logging show the same, without commands, and end with the same
status. -/
private theorem run_same (env env' : Environment) (h : o.SameButDisplay o') (hfiles : env'.files = env.files)
    (hsink : env'.sink = env.sink) (hfs : env.files.root.Lacks escapeByte) :
    (run env' o').status = (run env o).status ∧
      withoutCommands (printed (linesWritten (run env' o').output)) =
        withoutCommands (printed (linesWritten (run env o).output)) := by
  rcases (sameChecks h hfiles).run_cases with ⟨houtput, houtput', hstatus⟩ | ⟨c, hshows, hshows'⟩
  · rw [houtput, houtput']
    exact ⟨hstatus, rfl⟩
  · have hfs' : env'.files.root.Lacks escapeByte := hfiles ▸ hfs
    rw [hshows.status, hshows'.status, hshows.lines, hshows'.lines, withoutCommands_shown hfs,
      withoutCommands_shown hfs', hsink, hfiles, foundHits_congr h, shownLines_eq, shownLines_eq, List.length_map,
      List.length_map, hfiles, foundHits_congr h]
    exact ⟨rfl, rfl⟩

/-- Take two runs of the program as a search that differ only in what they say about colours and logging, on the
command line or around it, in a tree of which no name and no file holds the escape byte.  Whatever colours the
configuration asks for and whatever the sink takes, both end with the same status, and without the terminal commands
they print the same text. -/
theorem runProgram_shows_same {args args' : List Bytes} (hargs : CommandLine.parse args env.config = .ok o)
    (hargs' : CommandLine.parse args' env.config = .ok o') (hsame : o.SameButDisplay o')
    (hescape : env.files.root.Lacks escapeByte) (logFilter logFilter' : Option Bytes) (declined declined' : Bool) :
    ∃ output output' diagnostics diagnostics' status,
      runProgram { env with logFilter := logFilter, declinesColor := declined } args =
          .search output diagnostics status ∧
        runProgram { env with logFilter := logFilter', declinesColor := declined' } args' =
          .search output' diagnostics' status ∧
        withoutCommands (printed output) = withoutCommands (printed output') := by
  let first : Environment := { env with logFilter := logFilter, declinesColor := declined }
  let second : Environment := { env with logFilter := logFilter', declinesColor := declined' }
  obtain ⟨hstatus, htext⟩ := run_same first second hsame rfl rfl hescape
  have hrun' := runProgram_of_parse second hargs'
  rw [hstatus] at hrun'
  exact ⟨_, _, _, _, _, runProgram_of_parse first hargs, hrun', htext.symm⟩

/-- The keyword stands in a class declaration and in another use, the first search is on a terminal and asks for no
colours, the second one asks for colours and for all messages, and the reader goes away after one line. -/
theorem runProgram_shows_same_on_terminal :
    let env : Environment := {
      files := ⟨.file (bytes "a.py") (bytes "class x(x):\n(x)\n") .empty, []⟩
      isTerminal := true
      sink := ⟨some ⟨1, false, .brokenPipe, by decide⟩⟩ }
    let args : List Bytes := [bytes "x", bytes "--no-color"]
    let args' : List Bytes := [bytes "--color", bytes "always", bytes "x", bytes "--verbose"]
    let o : Options := ⟨['x'], bytes ".", [.noColor], [], [], none, none⟩
    let o' : Options := ⟨['x'], bytes ".", [.verbose], [], [], some .always, none⟩
    CommandLine.parse args env.config = .ok o ∧ CommandLine.parse args' env.config = .ok o' ∧
      o.SameButDisplay o' ∧ env.files.root.Lacks escapeByte ∧
      ∃ output output' diagnostics diagnostics' status,
        runProgram { env with logFilter := none, declinesColor := false } args = .search output diagnostics status ∧
          runProgram { env with logFilter := some (bytes "warn"), declinesColor := true } args' =
            .search output' diagnostics' status ∧
          withoutCommands (printed output) = withoutCommands (printed output') := by
  intro env args args' o o'
  have hargs : CommandLine.parse args env.config = .ok o := by rfl
  have hargs' : CommandLine.parse args' env.config = .ok o' := by rfl
  have hflags : ∀ f, f ≠ .noColor → f ≠ .verbose → o'.has f = o.has f := by
    intro f hcolor hverbose
    simp [o, o', Options.has, hcolor, hverbose]
  have hsame : o.SameButDisplay o' := ⟨rfl, rfl, rfl, rfl, rfl, hflags⟩
  have hescape : env.files.root.Lacks escapeByte := by decide
  exact ⟨hargs, hargs', hsame, hescape,
    runProgram_shows_same hargs hargs' hsame hescape none (some (bytes "warn")) false true⟩

end Search

end KeywordFinder
