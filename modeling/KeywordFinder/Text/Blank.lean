import KeywordFinder.Text.Ranges

/-!
# Blank characters

The Unicode `White_Space` characters, and the operations that skip or strip them.  A text is the blanks
before it, what `trim` keeps, and the blanks after it.
-/

namespace KeywordFinder

/-- Lines, keywords and patterns are lists of characters. -/
abbrev Text := List Char

/-- The code points of blank characters. -/
def blankRanges : List (Nat × Nat) := [
  (0x09, 0x0D), (0x20, 0x20), (0x85, 0x85), (0xA0, 0xA0), (0x1680, 0x1680), (0x2000, 0x200A),
  (0x2028, 0x2029), (0x202F, 0x202F), (0x205F, 0x205F), (0x3000, 0x3000)]

/-- Whether `c` is blank. -/
def isBlank (c : Char) : Bool := inRanges blankRanges c

/-- The text after its leading blanks. -/
def trimStart (s : Text) : Text := s.dropWhile isBlank

/-- The text before its trailing blanks. -/
def trimEnd (s : Text) : Text := (trimStart s.reverse).reverse

/-- The text without the blanks around it. -/
def trim (s : Text) : Text := trimEnd (trimStart s)

/-- Takes blanks off the front of a text, as many as leave a rest that `read` accepts: the blanks, and what
`read` makes of the rest. -/
def skipBlanks? {α : Type} (read : Text → Option α) : Text → Option (Text × α)
  | [] => (read []).map ([], ·)
  | c :: s =>
    match if isBlank c then skipBlanks? read s else none with
    | some (blanks, a) => some (c :: blanks, a)
    | none => (read (c :: s)).map ([], ·)

/-- What is skipped is blank, and the rest is what is read. -/
theorem eq_append_of_skipBlanks? {α : Type} {read : Text → Option α} {s w : Text} {a : α}
    (h : skipBlanks? read s = some (w, a)) :
    ∃ r, s = w ++ r ∧ (∀ c ∈ w, isBlank c = true) ∧ read r = some a := by
  induction s generalizing w with
  | nil =>
    obtain ⟨b, hb, he⟩ := Option.map_eq_some_iff.1 h
    cases he
    exact ⟨[], rfl, by simp, hb⟩
  | cons c s ih =>
    rw [skipBlanks?] at h
    split at h
    next blanks b hs =>
      cases h
      split at hs
      next hc =>
        obtain ⟨r, rfl, hw, hr⟩ := ih hs
        exact ⟨r, rfl, by simpa [hc] using hw, hr⟩
      next => cases hs
    next =>
      obtain ⟨b, hb, he⟩ := Option.map_eq_some_iff.1 h
      cases he
      exact ⟨c :: s, rfl, by simp, hb⟩

/-- Skipping fails only if no number of blanks leaves a rest that can be read. -/
theorem skipBlanks?_eq_none_iff {α : Type} {read : Text → Option α} {s : Text} :
    skipBlanks? read s = none ↔
      ∀ w r, s = w ++ r → (∀ c ∈ w, isBlank c = true) → read r = none := by
  induction s with
  | nil =>
    rw [skipBlanks?, Option.map_eq_none_iff]
    constructor
    · intro h w r hs _
      obtain ⟨rfl, rfl⟩ := List.append_eq_nil_iff.1 hs.symm
      exact h
    · intro h
      exact h [] [] rfl (by simp)
  | cons c s ih =>
    have key : skipBlanks? read (c :: s) = none ↔
        (isBlank c = true → skipBlanks? read s = none) ∧ read (c :: s) = none := by
      by_cases hc : isBlank c = true
      · cases hs : skipBlanks? read s <;> simp [skipBlanks?, hc, hs]
      · simp [skipBlanks?, hc]
    rw [key, ih]
    constructor
    · rintro ⟨hskip, hread⟩ w r hs hw
      cases w with
      | nil =>
        rw [List.nil_append] at hs
        exact hs ▸ hread
      | cons d w =>
        obtain ⟨rfl, rfl⟩ := List.cons.inj hs
        rw [List.forall_mem_cons] at hw
        exact hskip hw.1 w r rfl hw.2
    · intro h
      refine ⟨fun hc w r hs hw => ?_, h [] (c :: s) rfl (by simp)⟩
      exact h (c :: w) r (by simp [hs]) (List.forall_mem_cons.2 ⟨hc, hw⟩)

end KeywordFinder
