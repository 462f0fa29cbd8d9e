import KeywordFinder.Proofs.Line.Forms
import Mathlib.Data.List.TakeWhile

/-!
# The place of a keyword behind blanks

A keyword that is not blank stands in one place behind the blanks at the start of a text, although it may start with
blanks itself (`Keyword.Spells.place_unique`): the blanks that the text starts with are those before the keyword and
those that the keyword starts with, and every text that spells the keyword starts with equally many of them, because
case folding keeps blanks and other characters apart (`isBlank_foldCase`), as it does assignment signs
(`foldCase_eq_sign_iff`).  So a reader that starts with the keyword finds it wherever it stands behind the blanks
(`Keyword.skipBlanks?_eq_some`).
-/

namespace KeywordFinder

/-! ### Characters without case -/

/-- A set of characters is kept by case folding if neither a character with another representative nor such a
representative is in it. -/
private theorem inRanges_foldCase {ranges : List (Nat × Nat)}
    (hruns : ∀ run ∈ foldRuns, ∀ r ∈ ranges,
      (run.last < r.1 ∨ r.2 < run.first) ∧ (run.target + (run.last - run.first) < r.1 ∨ r.2 < run.target))
    (hnull : inRanges ranges (Char.ofNat 0) = false) (c : Char) :
    inRanges ranges (foldCase c) = inRanges ranges c := by
  rw [foldCase]
  split
  · next run hrun =>
    have hcovers : run.first ≤ c.toNat ∧ c.toNat ≤ run.last := by
      have h := List.find?_some hrun
      simp only [FoldRun.covers, Bool.and_eq_true, decide_eq_true_eq] at h
      exact h.1
    have hdisjoint := hruns run (List.mem_of_find?_eq_some hrun)
    have hold : inRanges ranges c = false := by
      rw [Bool.eq_false_iff, Ne, inRanges_iff]
      rintro ⟨r, hr, hleast, hmost⟩
      have := (hdisjoint r hr).1
      omega
    have hnew : inRanges ranges (Char.ofNat (run.target + (c.toNat - run.first))) = false := by
      by_cases hvalid : (run.target + (c.toNat - run.first)).isValidChar
      · rw [Char.ofNat, dif_pos hvalid, Bool.eq_false_iff, Ne, inRanges_iff]
        rintro ⟨r, hr, hleast, hmost⟩
        have hnumber : ∀ n (h : n.isValidChar), (Char.ofNatAux n h).toNat = n := fun _ _ => rfl
        rw [hnumber] at hleast hmost
        have := (hdisjoint r hr).2
        omega
      · -- a number that is no code point stands for the null character
        rw [Char.ofNat, dif_neg hvalid]
        exact hnull
    rw [hold, hnew]
  · rfl

/-- Neither the characters with another representative nor these representatives are blank. -/
theorem isBlank_foldCase (c : Char) : isBlank (foldCase c) = isBlank c :=
  inRanges_foldCase (by decide +kernel) (by decide) c

/-- The assignment sign is equal up to case to itself only. -/
theorem foldCase_eq_sign_iff {c : Char} : foldCase c = '=' ↔ c = '=' := by
  have hsign : ∀ d : Char, inRanges [(0x3D, 0x3D)] d = true ↔ d = '=' := by
    intro d
    rw [inRanges_iff, ← Char.toNat_inj]
    simp
    omega
  rw [← hsign, ← hsign, inRanges_foldCase (by decide +kernel) (by decide)]

namespace SameText

variable {ignoreCase : Bool} {s t : Text}

/-- What case folding keeps of each character is the same in texts that are the same up to case. -/
theorem map_eq {α : Type} {f : Char → α} (hf : ∀ c, f (foldCase c) = f c) (h : SameText ignoreCase s t) :
    s.map f = t.map f := by
  cases ignoreCase with
  | false => rw [sameText_false.1 h]
  | true =>
    have hmap := congrArg (List.map f) (sameText_true.1 h)
    simpa only [List.map_map, Function.comp_def, hf] using hmap

theorem countP_eq {p : Char → Bool} (hp : ∀ c, p (foldCase c) = p c) (h : SameText ignoreCase s t) :
    s.countP p = t.countP p := by
  have hcount : ∀ u : Text, u.countP p = (u.map p).countP id := by
    intro u
    rw [List.countP_map]
    rfl
  rw [hcount, hcount, h.map_eq hp]

/-- Texts that are the same up to case have blanks at the same places. -/
theorem map_isBlank (h : SameText ignoreCase s t) : s.map isBlank = t.map isBlank := h.map_eq isBlank_foldCase

/-- Texts that are the same up to case hold equally many assignment signs. -/
theorem count_sign (h : SameText ignoreCase s t) : s.count '=' = t.count '=' := by
  have hsign : ∀ c : Char, (foldCase c == '=') = (c == '=') := by
    intro c
    rw [Bool.eq_iff_iff, beq_iff_eq, beq_iff_eq]
    exact foldCase_eq_sign_iff
  rw [List.count_eq_countP, List.count_eq_countP]
  exact h.countP_eq hsign

end SameText

/-! ### One place -/

private theorem length_takeWhile_isBlank (s : Text) :
    (s.takeWhile isBlank).length = ((s.map isBlank).takeWhile id).length := by
  rw [List.takeWhile_map, List.length_map]
  rfl

namespace Keyword.Spells

variable {k : Keyword} {found tail blanks found' tail' blanks' : Text}

/-- A spelling of a keyword that is not blank starts with as many blanks as the keyword, and another character
follows them. -/
theorem exists_of_not_blank (h : k.Spells found) (hk : ∃ c ∈ k.text, isBlank c = false) :
    ∃ first c rest, found = first ++ c :: rest ∧ first.length = (k.text.takeWhile isBlank).length ∧
      (∀ b ∈ first, isBlank b = true) ∧ isBlank c = false := by
  have hmap : k.text.map isBlank = found.map isBlank := SameText.map_isBlank h
  have hlength : (found.takeWhile isBlank).length = (k.text.takeWhile isBlank).length := by
    rw [length_takeWhile_isBlank, length_takeWhile_isBlank, hmap]
  have hrest : trimStart found ≠ [] := by
    intro hnil
    obtain ⟨c, hc, hblank⟩ := hk
    have hfalse : false ∈ found.map isBlank := by
      rw [← hmap, ← hblank]
      exact List.mem_map_of_mem hc
    obtain ⟨d, hd, hdblank⟩ := List.mem_map.1 hfalse
    rw [List.dropWhile_eq_nil_iff.1 hnil d hd] at hdblank
    cases hdblank
  obtain ⟨c, rest, hcons⟩ := List.exists_cons_of_ne_nil hrest
  refine ⟨found.takeWhile isBlank, c, rest, ?_, hlength, fun b hb => isBlank_of_mem_takeWhile hb, ?_⟩
  · rw [← hcons, takeWhile_append_trimStart]
  · have hhead := List.head?_dropWhile_not isBlank found
    rw [show found.dropWhile isBlank = c :: rest from hcons] at hhead
    simpa using hhead

/-- The blanks at the start of a text are those before the keyword and those that the keyword starts with. -/
theorem length_takeWhile_place (h : k.Spells found) (hk : ∃ c ∈ k.text, isBlank c = false)
    (hblanks : ∀ b ∈ blanks, isBlank b = true) (tail : Text) :
    ((blanks ++ (found ++ tail)).takeWhile isBlank).length =
      blanks.length + (k.text.takeWhile isBlank).length := by
  obtain ⟨first, c, rest, rfl, hlength, hfirst, hc⟩ := h.exists_of_not_blank hk
  have hfront : ∀ b ∈ blanks ++ first, isBlank b = true := by
    intro b hb
    rcases List.mem_append.1 hb with hb | hb
    · exact hblanks b hb
    · exact hfirst b hb
  have htext : blanks ++ (first ++ c :: rest ++ tail) = (blanks ++ first) ++ c :: (rest ++ tail) := by simp
  rw [htext, takeWhile_blank_append hfront hc, List.length_append, hlength]

/-- A keyword that is not blank stands in one place behind the blanks of a text. -/
theorem place_unique (h : k.Spells found) (h' : k.Spells found') (hk : ∃ c ∈ k.text, isBlank c = false)
    (hblanks : ∀ b ∈ blanks, isBlank b = true) (hblanks' : ∀ b ∈ blanks', isBlank b = true)
    (heq : blanks ++ (found ++ tail) = blanks' ++ (found' ++ tail')) :
    blanks = blanks' ∧ found = found' ∧ tail = tail' := by
  have hlength : blanks.length = blanks'.length := by
    have hplace := h.length_takeWhile_place hk hblanks tail
    have hplace' := h'.length_takeWhile_place hk hblanks' tail'
    rw [heq, hplace'] at hplace
    omega
  obtain ⟨rfl, hrest⟩ := List.append_inj heq hlength
  have hfound : found.length = found'.length := by rw [SameText.length_eq h, SameText.length_eq h']
  obtain ⟨rfl, rfl⟩ := List.append_inj hrest hfound
  exact ⟨rfl, rfl, rfl⟩

end Keyword.Spells

/-- A reader that starts with a keyword that is not blank finds it behind the blanks of a text. -/
theorem Keyword.skipBlanks?_eq_some {α : Type} {k : Keyword} {read : Text → Option (Text × α)} {blanks s : Text}
    {p : Text × α} (hk : ∃ c ∈ k.text, isBlank c = false)
    (hstart : ∀ s p, read s = some p → ∃ tail, s = p.1 ++ tail ∧ k.Spells p.1)
    (hblanks : ∀ b ∈ blanks, isBlank b = true) (hread : read s = some p) :
    skipBlanks? read (blanks ++ s) = some (blanks, p) := by
  cases hskip : skipBlanks? read (blanks ++ s) with
  | none =>
    have hnone := skipBlanks?_eq_none_iff.1 hskip blanks s rfl hblanks
    rw [hread] at hnone
    cases hnone
  | some q =>
    -- the search stops somewhere behind the blanks, and there is one place for the keyword only
    obtain ⟨blanks', p'⟩ := q
    obtain ⟨s', hsplit, hblanks', hread'⟩ := eq_append_of_skipBlanks? hskip
    obtain ⟨tail, hs, hspells⟩ := hstart s p hread
    obtain ⟨tail', hs', hspells'⟩ := hstart s' p' hread'
    rw [hs, hs'] at hsplit
    obtain ⟨rfl, hfound, rfl⟩ := hspells.place_unique hspells' hk hblanks hblanks' hsplit
    rw [hs, hfound, ← hs', hread'] at hread
    cases hread
    rfl

end KeywordFinder
