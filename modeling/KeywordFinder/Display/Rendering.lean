import KeywordFinder.Display.Palette
import KeywordFinder.Line.Match
import KeywordFinder.Text.Utf8

/-!
# Rendered hits

A hit is shown as its path, the line number and the fragments of the line.  With the plain palette the
fragments stand next to each other unchanged, so the line appears as it is.
-/

namespace KeywordFinder

/-- A matched line of a file. -/
structure Hit where
  path : Bytes
  /-- Lines are counted from one. -/
  lineNumber : Nat
  /-- The keyword as it was given. -/
  keyword : Text
  fragments : List Text
  keywordIndex : Nat
deriving DecidableEq, Repr

namespace Hit

/-- The text that the keyword matched. -/
def found (h : Hit) : Text := (h.fragments[h.keywordIndex]?).getD h.keyword

/-- What stands before the line. -/
def header (h : Hit) : Text :=
  decodeLossy h.path ++ [' ', ':'] ++ Nat.toDigits 10 h.lineNumber ++ ['\t']

/-- The marks around the fragment at a place, if it is set off. -/
def marks? (h : Hit) (p : Palette) (index : Nat) (fragment : Text) : Option Marks :=
  if index = h.keywordIndex ∨ fragment = h.found ∨ fragment = h.keyword then some p.found
  else if structuralMarkers.any (·.toList == fragment) then some p.structural
  else none

/-- The fragment at a place with its marks. -/
def renderFragment (h : Hit) (p : Palette) (index : Nat) (fragment : Text) : Text :=
  match h.marks? p index fragment with
  | some m => m.before ++ fragment ++ m.after
  | none => fragment

/-- The displayed line of a hit, without a line break. -/
def render (h : Hit) (p : Palette) : Text :=
  h.header ++ (h.fragments.mapIdx (h.renderFragment p)).flatten

/-- The plain palette writes no marks. -/
private theorem renderFragment_plain (h : Hit) (index : Nat) (fragment : Text) :
    h.renderFragment .plain index fragment = fragment := by
  have hmarks : h.marks? .plain index fragment = some ⟨[], []⟩ ∨ h.marks? .plain index fragment = none := by
    rw [marks?]
    split
    · exact .inl rfl
    · split
      · exact .inl rfl
      · exact .inr rfl
  rw [renderFragment]
  rcases hmarks with hm | hm <;> simp [hm]

/-- With the plain palette the fragments stand next to each other. -/
theorem render_plain (h : Hit) : h.render .plain = h.header ++ h.fragments.flatten := by
  have hsame : h.fragments.mapIdx (h.renderFragment .plain) = h.fragments := by
    apply List.ext_getElem
    · simp
    · intro i h₁ h₂
      rw [List.getElem_mapIdx, renderFragment_plain]
  rw [render, hsame]

end Hit

end KeywordFinder
