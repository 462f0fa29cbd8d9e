import KeywordFinder.Display.Rendering

/-!
# Terminal commands in displayed hits

Colours are terminal commands that stand around fragments.  A command begins with an escape character, so where the path
and the fragments of a hit hold none, deleting the commands takes away the colours and nothing else
(`Hit.withoutCommands_render`), and it does so line by line (`withoutCommands_printed`).
-/

namespace KeywordFinder

/-! ### Deleting words -/

/-- The character that begins a terminal command. -/
def escapeCharacter : Char := '\x1b'

/-- The terminal commands for bold text, the two colours and the end of both. -/
def displayCommands : List Text := [escape ['1'], escape ['3', '1'], escape ['3', '2'], escape ['0']]

/-- A text without the given words, wherever they stand.  The first `pending` characters are the rest of a word that is
being deleted. -/
def deleteWords (words : List Text) : (pending : Nat) → Text → Text
  | _, [] => []
  | pending + 1, _ :: s => deleteWords words pending s
  | 0, c :: s =>
    match words.find? (·.isPrefixOf (c :: s)) with
    | some word => deleteWords words (word.length - 1) s
    | none => c :: deleteWords words 0 s

/-- A text without the terminal commands of the display. -/
def withoutCommands (s : Text) : Text := deleteWords displayCommands 0 s

/-- A word that is being deleted is passed over. -/
private theorem deleteWords_append (words : List Text) (word s : Text) :
    deleteWords words word.length (word ++ s) = deleteWords words 0 s := by
  induction word with
  | nil => rfl
  | cons c word ih => exact ih

private theorem find?_displayCommands {c : Char} (hc : c ≠ escapeCharacter) (s : Text) :
    displayCommands.find? (·.isPrefixOf (c :: s)) = none := by
  have hfirst : '\x1b' ≠ c := hc.symm
  simp [displayCommands, escape, hfirst]

/-- Only the escape character begins a command, so what holds none stays as it is. -/
theorem withoutCommands_append {t : Text} (ht : escapeCharacter ∉ t) (s : Text) :
    withoutCommands (t ++ s) = t ++ withoutCommands s := by
  induction t with
  | nil => rfl
  | cons c t ih =>
    obtain ⟨hc, ht⟩ := List.ne_and_not_mem_of_not_mem_cons ht
    have hkeep : withoutCommands (c :: (t ++ s)) = c :: withoutCommands (t ++ s) := by
      rw [withoutCommands, deleteWords, find?_displayCommands hc.symm]
      rfl
    rw [List.cons_append, hkeep, ih ht, List.cons_append]

/-- A command at the front is deleted.  No command is the start of another one. -/
theorem withoutCommands_command {command : Text} (h : command ∈ displayCommands) (s : Text) :
    withoutCommands (command ++ s) = withoutCommands s := by
  have hfound : displayCommands.find? (·.isPrefixOf (command ++ s)) = some command := by
    simp only [displayCommands, List.mem_cons, List.not_mem_nil, or_false] at h
    rcases h with rfl | rfl | rfl | rfl <;> rfl
  cases command with
  | nil => rfl
  | cons c word =>
    rw [List.cons_append] at hfound ⊢
    rw [withoutCommands, deleteWords, hfound]
    exact deleteWords_append displayCommands word s

/-! ### Displayed hits -/

/-- The marks around a fragment disappear with the commands. -/
private def Marks.Vanish (m : Marks) : Prop :=
  ∀ s, withoutCommands (m.before ++ s) = withoutCommands s ∧ withoutCommands (m.after ++ s) = withoutCommands s

private theorem Marks.vanish_bold {color : Text} (h : escape color ∈ displayCommands) : (Marks.bold color).Vanish := by
  have hbold : escape ['1'] ∈ displayCommands := by decide
  have hend : escape ['0'] ∈ displayCommands := by decide
  intro s
  constructor
  · rw [bold, List.append_assoc, withoutCommands_command hbold, withoutCommands_command h]
  · exact withoutCommands_command hend s

private theorem Palette.vanish_ofDecision (on : Bool) : (ofDecision on).found.Vanish ∧ (ofDecision on).structural.Vanish := by
  cases on with
  | false => exact ⟨fun s => ⟨rfl, rfl⟩, fun s => ⟨rfl, rfl⟩⟩
  | true => exact ⟨Marks.vanish_bold (by decide), Marks.vanish_bold (by decide)⟩

/-- What is displayed of a hit besides colours. -/
def Hit.text (h : Hit) : Text := h.header ++ h.fragments.flatten

/-- Whether a hit displays no escape character of its own. -/
structure Hit.LacksEscapes (h : Hit) : Prop where
  path : escapeCharacter ∉ decodeLossy h.path
  fragments : ∀ f ∈ h.fragments, escapeCharacter ∉ f

namespace Hit

variable {h : Hit}

theorem LacksEscapes.header (hh : h.LacksEscapes) : escapeCharacter ∉ h.header := by
  have hdigits : escapeCharacter ∉ Nat.toDigits 10 h.lineNumber := by
    intro hmem
    have hdigit : escapeCharacter.isDigit = true := Nat.isDigit_of_mem_toDigits (by omega) (by omega) hmem
    exact absurd hdigit (by decide)
  have hsign : escapeCharacter ∉ [' ', ':'] := by decide
  have htab : escapeCharacter ∉ ['\t'] := by decide
  simp only [Hit.header, List.mem_append, not_or]
  exact ⟨⟨⟨hh.path, hsign⟩, hdigits⟩, htab⟩

/-- A fragment is displayed as it stands, but for commands. -/
private theorem withoutCommands_renderFragment (on : Bool) (index : Nat) {fragment : Text}
    (hf : escapeCharacter ∉ fragment) (s : Text) :
    withoutCommands (h.renderFragment (.ofDecision on) index fragment ++ s) = fragment ++ withoutCommands s := by
  obtain ⟨hfound, hstructural⟩ := Palette.vanish_ofDecision on
  have hmarks : ∀ m, h.marks? (.ofDecision on) index fragment = some m → m.Vanish := by
    intro m hm
    rw [marks?] at hm
    split at hm
    · cases hm
      exact hfound
    · split at hm
      · cases hm
        exact hstructural
      · cases hm
  rw [renderFragment]
  split
  · next m hm =>
    rw [List.append_assoc, List.append_assoc, (hmarks m hm _).1, withoutCommands_append hf, (hmarks m hm s).2]
  · exact withoutCommands_append hf s

/-- Fragments follow each other, whatever each of them is displayed as. -/
private theorem withoutCommands_mapIdx {fragments : List Text} {display : Nat → Text → Text}
    (h : ∀ i, ∀ f ∈ fragments, ∀ s, withoutCommands (display i f ++ s) = f ++ withoutCommands s) (s : Text) :
    withoutCommands ((fragments.mapIdx display).flatten ++ s) = fragments.flatten ++ withoutCommands s := by
  induction fragments generalizing display with
  | nil => rfl
  | cons f fragments ih =>
    have hrest := ih fun i g hg => h (i + 1) g (List.mem_cons_of_mem f hg)
    rw [List.mapIdx_cons, List.flatten_cons, List.append_assoc, h 0 f List.mem_cons_self, hrest, List.flatten_cons,
      List.append_assoc]

/-- Without the commands a hit is displayed without colours, whatever follows it. -/
theorem withoutCommands_render (hh : h.LacksEscapes) (on : Bool) (s : Text) :
    withoutCommands (h.render (.ofDecision on) ++ s) = h.text ++ withoutCommands s := by
  have hdisplay : ∀ i, ∀ f ∈ h.fragments, ∀ s,
      withoutCommands (h.renderFragment (.ofDecision on) i f ++ s) = f ++ withoutCommands s :=
    fun i f hf => withoutCommands_renderFragment on i (hh.fragments f hf)
  rw [render, List.append_assoc, withoutCommands_append hh.header, withoutCommands_mapIdx hdisplay, text,
    List.append_assoc]

end Hit

/-! ### Lines of output -/

/-- The text of an output that lines are written to. -/
def printed (lines : List Text) : Text := lines.flatMap (· ++ ['\n'])

/-- Without the commands an output of hits is what it is without colours. -/
theorem withoutCommands_printed {hits : List Hit} (h : ∀ hit ∈ hits, hit.LacksEscapes) (on : Bool) :
    withoutCommands (printed (hits.map (·.render (.ofDecision on)))) = printed (hits.map (·.text)) := by
  induction hits with
  | nil => rfl
  | cons hit hits ih =>
    obtain ⟨hhit, hrest⟩ := List.forall_mem_cons.1 h
    have hfeed : escapeCharacter ∉ ['\n'] := by decide
    have ih := ih hrest
    simp only [printed, List.map_cons, List.flatMap_cons, List.append_assoc] at ih ⊢
    rw [Hit.withoutCommands_render hhit, withoutCommands_append hfeed, ih]

/-- Two commands in a row are deleted, and an escape character without a command stays. -/
example : withoutCommands (['a'] ++ escape ['1'] ++ escape ['3', '1'] ++ ['b', '\x1b'] ++ escape ['0']) =
    ['a', 'b', '\x1b'] := by decide

end KeywordFinder
