import KeywordFinder.Proofs.Display.Commands

/-!
# Coloured hits on a terminal

A terminal reads one character after the other.  Commands set the style in which it shows the characters behind them
(`Terminal.receive_escape`), and a text without commands is shown in the style of the moment
(`Terminal.receive_of_not_mem`).  The marks around a fragment leave the terminal in the style they found it in, so a
coloured hit is shown as the plain one, each fragment in its own style (`Hit.shown_on_terminal`).
-/

namespace KeywordFinder

/-! ### Terminals -/

/-- The colours of the display. -/
inductive Colour where
  | red
  | green
deriving DecidableEq, Repr

/-- How a terminal shows a character.  Without a colour it has the usual one. -/
structure TextStyle where
  bold : Bool := false
  colour : Option Colour := none
deriving DecidableEq, Repr

/-- The style that a terminal starts with. -/
def TextStyle.usual : TextStyle := {}

/-- The style after a command in this one.  A command of any other kind changes nothing. -/
def TextStyle.after (style : TextStyle) (command : Text) : TextStyle :=
  if command = "\x1b[1m".toList then { style with bold := true }
  else if command = "\x1b[31m".toList then { style with colour := some .red }
  else if command = "\x1b[32m".toList then { style with colour := some .green }
  else if command = "\x1b[0m".toList then usual
  else style

/-- A terminal that is written to. -/
structure Terminal where
  /-- The style of the next character. -/
  style : TextStyle := .usual
  shown : List (Char × TextStyle) := []
  /-- What is read of a command that is not complete. -/
  command : Text := []
deriving DecidableEq, Repr

namespace Terminal

/-- The terminal after a character.  A command reaches from an escape character to the letter `m`. -/
def read (t : Terminal) (c : Char) : Terminal :=
  if t.command = [] ∧ c ≠ escapeCharacter then { t with shown := t.shown ++ [(c, t.style)] }
  else if c = 'm' then { t with style := t.style.after (t.command ++ [c]), command := [] }
  else { t with command := t.command ++ [c] }

/-- The terminal after a text. -/
def receive (t : Terminal) (s : Text) : Terminal := s.foldl read t

variable {style : TextStyle} {shown : List (Char × TextStyle)} {s : Text}

theorem receive_append (t : Terminal) (s r : Text) : t.receive (s ++ r) = (t.receive s).receive r := List.foldl_append

/-- A text without commands is shown as it is, in the style of the moment. -/
theorem receive_of_not_mem (h : escapeCharacter ∉ s) :
    receive ⟨style, shown, []⟩ s = ⟨style, shown ++ s.map (·, style), []⟩ := by
  induction s generalizing shown with
  | nil => simp [receive]
  | cons c s ih =>
    obtain ⟨hc, hs⟩ := List.ne_and_not_mem_of_not_mem_cons h
    have hread : read ⟨style, shown, []⟩ c = ⟨style, shown ++ [(c, style)], []⟩ := if_pos ⟨rfl, hc.symm⟩
    have hcons : receive ⟨style, shown, []⟩ (c :: s) = receive (read ⟨style, shown, []⟩ c) s := rfl
    rw [hcons, hread, ih hs, List.map_cons, List.append_assoc, List.singleton_append]

/-- What follows an escape character is read as a command up to the letter that ends it. -/
private theorem receive_of_command {command : Text} (hcommand : command ≠ []) (h : 'm' ∉ s) :
    receive ⟨style, shown, command⟩ s = ⟨style, shown, command ++ s⟩ := by
  induction s generalizing command with
  | nil => simp [receive]
  | cons c s ih =>
    obtain ⟨hc, hs⟩ := List.ne_and_not_mem_of_not_mem_cons h
    have hread : read ⟨style, shown, command⟩ c = ⟨style, shown, command ++ [c]⟩ := by
      rw [read, if_neg fun hnone => hcommand hnone.1, if_neg hc.symm]
    have hcons : receive ⟨style, shown, command⟩ (c :: s) = receive (read ⟨style, shown, command⟩ c) s := rfl
    rw [hcons, hread, ih (by simp) hs, List.append_assoc, List.singleton_append]

/-- A complete command sets the style and shows nothing. -/
theorem receive_escape {parameter : Text} (h : 'm' ∉ parameter) :
    receive ⟨style, shown, []⟩ (escape parameter) = ⟨style.after (escape parameter), shown, []⟩ := by
  have hstart : read ⟨style, shown, []⟩ escapeCharacter = ⟨style, shown, [escapeCharacter]⟩ := rfl
  have hinside : 'm' ∉ '[' :: parameter := List.not_mem_cons_of_ne_of_not_mem (by decide) h
  have hend : ∀ command : Text, command ≠ [] →
      receive ⟨style, shown, command⟩ ['m'] = ⟨style.after (command ++ ['m']), shown, []⟩ := by
    intro command hcommand
    exact (if_neg fun hnone => hcommand hnone.1).trans (if_pos rfl)
  have hcons : receive ⟨style, shown, []⟩ (escape parameter) =
      receive (read ⟨style, shown, []⟩ escapeCharacter) ('[' :: parameter ++ ['m']) := rfl
  rw [hcons, hstart, receive_append, receive_of_command (by simp) hinside, hend _ (by simp)]
  rfl

/-- A text between marks is shown in the style that the marks are for, and the style ends with it. -/
theorem receive_bold {color : Text} (hcolor : 'm' ∉ color) (h : escapeCharacter ∉ s) :
    receive ⟨.usual, shown, []⟩ ((Marks.bold color).before ++ s ++ (Marks.bold color).after) =
      ⟨.usual, shown ++ s.map (·, TextStyle.after ⟨true, none⟩ (escape color)), []⟩ := by
  have hbold : TextStyle.usual.after (escape ['1']) = ⟨true, none⟩ := by decide
  have hbefore : receive ⟨.usual, shown, []⟩ (Marks.bold color).before =
      ⟨TextStyle.after ⟨true, none⟩ (escape color), shown, []⟩ := by
    rw [Marks.bold, receive_append, receive_escape (by decide), hbold, receive_escape hcolor]
  rw [receive_append, receive_append, hbefore, receive_of_not_mem h]
  exact receive_escape (by decide)

end Terminal

/-! ### Fragments -/

namespace Hit

variable {h : Hit}

/-- How a fragment of a hit is to be shown: the one at the keyword's place and all that have its text or the keyword's in
bold green, other structural words and signs in bold red, and the rest without a style. -/
def look (h : Hit) (index : Nat) (fragment : Text) : TextStyle :=
  if index = h.keywordIndex ∨ fragment = (h.fragments[h.keywordIndex]?).getD h.keyword ∨ fragment = h.keyword then
    ⟨true, some .green⟩
  else if fragment ∈ ["class".toList, "def".toList, ['=']] then ⟨true, some .red⟩
  else .usual

private theorem any_structuralMarkers_iff {fragment : Text} :
    structuralMarkers.any (·.toList == fragment) = true ↔ fragment ∈ ["class".toList, "def".toList, ['=']] := by
  have hmap : ["class".toList, "def".toList, ['=']] = structuralMarkers.map String.toList := rfl
  rw [hmap, List.mem_map, List.any_eq_true]
  simp only [beq_iff_eq]

/-- A fragment is shown in its style, and the terminal is back in the usual style behind it. -/
theorem receive_renderFragment (index : Nat) {fragment : Text} (hf : escapeCharacter ∉ fragment)
    (shown : List (Char × TextStyle)) :
    Terminal.receive ⟨.usual, shown, []⟩ (h.renderFragment .colored index fragment) =
      ⟨.usual, shown ++ fragment.map (·, h.look index fragment), []⟩ := by
  by_cases hkeyword : index = h.keywordIndex ∨ fragment = (h.fragments[h.keywordIndex]?).getD h.keyword ∨
      fragment = h.keyword
  · rw [renderFragment, marks?, found, if_pos hkeyword, look, if_pos hkeyword]
    exact Terminal.receive_bold (by decide) hf
  · rw [renderFragment, marks?, found, if_neg hkeyword, look, if_neg hkeyword]
    by_cases hmarker : structuralMarkers.any (·.toList == fragment) = true
    · rw [if_pos hmarker, if_pos (any_structuralMarkers_iff.1 hmarker)]
      exact Terminal.receive_bold (by decide) hf
    · rw [if_neg hmarker, if_neg (hmarker ∘ any_structuralMarkers_iff.2)]
      exact Terminal.receive_of_not_mem hf

/-- Fragments follow each other, each of them in its style. -/
private theorem receive_mapIdx {fragments : List Text} {display : Nat → Text → Text} {style : Nat → Text → TextStyle}
    (h : ∀ i, ∀ f ∈ fragments, ∀ shown,
      Terminal.receive ⟨.usual, shown, []⟩ (display i f) = ⟨.usual, shown ++ f.map (·, style i f), []⟩)
    (shown : List (Char × TextStyle)) :
    Terminal.receive ⟨.usual, shown, []⟩ (fragments.mapIdx display).flatten =
      ⟨.usual, shown ++ (fragments.mapIdx fun i f => f.map (·, style i f)).flatten, []⟩ := by
  induction fragments generalizing display style shown with
  | nil => simp [Terminal.receive]
  | cons f fragments ih =>
    have hrest := @ih (fun i => display (i + 1)) (fun i => style (i + 1))
      fun i g hg => h (i + 1) g (List.mem_cons_of_mem f hg)
    rw [List.mapIdx_cons, List.flatten_cons, Terminal.receive_append, h 0 f List.mem_cons_self, hrest,
      List.mapIdx_cons, List.flatten_cons, List.append_assoc]

/-- Whatever their styles, the characters of the fragments are shown. -/
private theorem characters_of_fragments (fragments : List Text) (style : Nat → Text → TextStyle) :
    (fragments.mapIdx fun i f => f.map (·, style i f)).flatten.map (·.1) = fragments.flatten := by
  induction fragments generalizing style with
  | nil => rfl
  | cons f fragments ih =>
    have hfirst : (f.map (·, style 0 f)).map (·.1) = f := by simp [Function.comp_def]
    rw [List.mapIdx_cons, List.flatten_cons, List.map_append, hfirst, ih fun i => style (i + 1), List.flatten_cons]

/-- A terminal that shows a coloured hit shows the header without a style and then the fragments, each in its own style.
At the end of each fragment it is back in the usual style, and all in all it shows the characters of the plain hit. -/
theorem shown_on_terminal (hh : h.LacksEscapes) :
    (∀ start, start <+: h.fragments →
      let written := h.header ++ (start.mapIdx (h.renderFragment .colored)).flatten
      written <+: h.render .colored ∧
        Terminal.receive {} written =
          ⟨.usual, h.header.map (·, TextStyle.usual) ++ (start.mapIdx fun i f => f.map (·, h.look i f)).flatten, []⟩) ∧
    (Terminal.receive {} (h.render .colored)).shown =
      h.header.map (·, TextStyle.usual) ++ (h.fragments.mapIdx fun i f => f.map (·, h.look i f)).flatten ∧
    (Terminal.receive {} (h.render .colored)).shown.map (·.1) = h.render .plain ∧
    h.render .plain =
      decodeLossy h.path ++ [' ', ':'] ++ Nat.toDigits 10 h.lineNumber ++ ['\t'] ++ h.fragments.flatten := by
  have hstart : ∀ start, start <+: h.fragments →
      Terminal.receive {} (h.header ++ (start.mapIdx (h.renderFragment .colored)).flatten) =
        ⟨.usual, h.header.map (·, TextStyle.usual) ++ (start.mapIdx fun i f => f.map (·, h.look i f)).flatten, []⟩ := by
    intro start hfront
    rw [Terminal.receive_append, Terminal.receive_of_not_mem hh.header, List.nil_append]
    exact receive_mapIdx (fun i f hf => receive_renderFragment i (hh.fragments f (hfront.subset hf))) _
  have hall : (Terminal.receive {} (h.render .colored)).shown =
      h.header.map (·, TextStyle.usual) ++ (h.fragments.mapIdx fun i f => f.map (·, h.look i f)).flatten := by
    rw [render, hstart h.fragments (List.prefix_refl _)]
  refine ⟨fun start hfront => ⟨?_, hstart start hfront⟩, hall, ?_, render_plain h⟩
  · obtain ⟨rest, hrest⟩ := hfront
    rw [render, ← hrest, List.mapIdx_append, List.flatten_append, ← List.append_assoc]
    exact List.prefix_append _ _
  · have hheader : (h.header.map (·, TextStyle.usual)).map (·.1) = h.header := by simp [Function.comp_def]
    rw [hall, render_plain, List.map_append, hheader, characters_of_fragments]

/-- Set off fragments next to each other, an empty one that is the keyword's place, and the keyword elsewhere. -/
theorem shown_on_terminal_adjacent :
    let h : Hit := ⟨bytes "a", 7, ['K'], ["class".toList, ['='], [], ['K'], ['x']], 2⟩
    h.LacksEscapes ∧ (Terminal.receive {} (h.render .colored)).shown =
      "a :7\t".toList.map (·, TextStyle.usual) ++ "class=".toList.map (·, ⟨true, some .red⟩) ++
        [('K', ⟨true, some .green⟩), ('x', .usual)] := by
  intro h
  have hh : h.LacksEscapes := ⟨by decide, by decide⟩
  refine ⟨hh, ?_⟩
  rw [(shown_on_terminal hh).2.1]
  decide

/-- Where no fragment has the place of the keyword, the keyword is known by its text. -/
example : (Hit.mk (bytes "a") 7 ['K'] [['K'], ['=']] 5).look 0 ['K'] = ⟨true, some .green⟩ := by decide

end Hit

end KeywordFinder
