import KeywordFinder.Line.Matcher
import Mathlib.Data.Option.Basic

/-!
# The forms of matching lines

What a line that matches a role looks like.  The keyword is taken off the front of a text exactly when the text
starts with it, up to case if case is ignored (`Keyword.take?_eq_some_iff`).  A line that matches as a declaration,
an assignment or another use splits into the parts of that form, and the match is made of these parts
(`exists_of_declaration?`, `exists_of_assignment?`, `exists_of_otherUse?`, and for all roles `Role.form_of_match?`).
-/

namespace KeywordFinder

/-! ### Texts equal up to case -/

/-- Whether two texts are the same, up to simple case folding if `ignoreCase` is set. -/
def SameText (ignoreCase : Bool) (s t : Text) : Prop :=
  if ignoreCase then s.map foldCase = t.map foldCase else s = t

instance (ignoreCase : Bool) (s t : Text) : Decidable (SameText ignoreCase s t) :=
  inferInstanceAs (Decidable (if ignoreCase then _ else _))

theorem sameText_false {s t : Text} : SameText false s t ↔ s = t := Iff.rfl

theorem sameText_true {s t : Text} : SameText true s t ↔ s.map foldCase = t.map foldCase := Iff.rfl

theorem SameText.length_eq {ignoreCase : Bool} {s t : Text} (h : SameText ignoreCase s t) :
    t.length = s.length := by
  cases ignoreCase with
  | false => exact congrArg List.length (sameText_false.1 h).symm
  | true =>
    have hl : (s.map foldCase).length = (t.map foldCase).length := congrArg List.length h
    simpa using hl.symm

private theorem sameChar_iff {ignoreCase : Bool} {a b : Char} :
    sameChar ignoreCase a b = true ↔ SameText ignoreCase [a] [b] := by
  cases ignoreCase with
  | false => simp [sameChar, SameText]
  | true =>
    simp only [sameChar, SameText, Bool.true_and, Bool.or_eq_true, beq_iff_eq, ↓reduceIte, List.map_cons,
      List.map_nil, List.cons.injEq, and_true, or_iff_right_iff_imp]
    exact fun h => congrArg foldCase h

private theorem sameText_nil {ignoreCase : Bool} {t : Text} : SameText ignoreCase [] t ↔ t = [] := by
  constructor
  · intro h
    exact List.eq_nil_of_length_eq_zero h.length_eq
  · rintro rfl
    cases ignoreCase <;> rfl

private theorem sameText_cons {ignoreCase : Bool} {a b : Char} {s t : Text} :
    SameText ignoreCase (a :: s) (b :: t) ↔ SameText ignoreCase [a] [b] ∧ SameText ignoreCase s t := by
  cases ignoreCase <;> simp [SameText]

/-- A word is taken off the front of a text exactly if the text starts with that word. -/
theorem takeWord?_eq_some_iff {ignoreCase : Bool} {w s found rest : Text} :
    takeWord? ignoreCase w s = some (found, rest) ↔ s = found ++ rest ∧ SameText ignoreCase w found := by
  induction w generalizing s found with
  | nil =>
    simp only [takeWord?, Option.some.injEq, Prod.mk.injEq, sameText_nil]
    constructor
    · rintro ⟨rfl, rfl⟩
      exact ⟨rfl, rfl⟩
    · rintro ⟨rfl, rfl⟩
      exact ⟨rfl, rfl⟩
  | cons a w ih =>
    constructor
    · intro h
      cases s with
      | nil => cases h
      | cons c s =>
        simp only [takeWord?] at h
        split at h
        · next hc =>
          obtain ⟨⟨f, r⟩, hp, he⟩ := Option.map_eq_some_iff.1 h
          cases he
          obtain ⟨rfl, hf⟩ := ih.1 hp
          exact ⟨rfl, sameText_cons.2 ⟨sameChar_iff.1 hc, hf⟩⟩
        · cases h
    · rintro ⟨rfl, h⟩
      cases found with
      | nil => exact absurd h.length_eq (by simp)
      | cons c f =>
        obtain ⟨hc, hf⟩ := sameText_cons.1 h
        rw [List.cons_append, takeWord?, if_pos (sameChar_iff.2 hc), ih.2 ⟨rfl, hf⟩]
        rfl

/-- A text spells the keyword if it is the same, up to case if the keyword ignores case. -/
def Keyword.Spells (k : Keyword) (s : Text) : Prop := SameText k.ignoreCase k.text s

instance (k : Keyword) (s : Text) : Decidable (k.Spells s) :=
  inferInstanceAs (Decidable (SameText _ _ _))

theorem Keyword.take?_eq_some_iff {k : Keyword} {s found rest : Text} :
    k.take? s = some (found, rest) ↔ s = found ++ rest ∧ k.Spells found :=
  takeWord?_eq_some_iff

theorem Keyword.Spells.ne_nil {k : Keyword} {s : Text} (h : k.Spells s) (hk : k.text ≠ []) : s ≠ [] := by
  intro hs
  have hl := SameText.length_eq h
  rw [hs] at hl
  exact hk (List.eq_nil_of_length_eq_zero hl.symm)

/-! ### Blanks before a text -/

theorem ne_nil_of_not_blank {s : Text} (h : ∃ c ∈ s, isBlank c = false) : s ≠ [] := by
  obtain ⟨c, hc, -⟩ := h
  exact List.ne_nil_of_mem hc

theorem isBlank_of_mem_takeWhile {s : Text} {c : Char} (h : c ∈ s.takeWhile isBlank) : isBlank c = true := by
  have := List.all_takeWhile (p := isBlank) (l := s)
  exact List.all_eq_true.1 this c h

theorem takeWhile_append_trimStart (s : Text) : s.takeWhile isBlank ++ trimStart s = s :=
  List.takeWhile_append_dropWhile

/-- Blanks before a character that is none are those that a text starts with. -/
theorem takeWhile_blank_append {blanks s : Text} {c : Char} (h : ∀ b ∈ blanks, isBlank b = true)
    (hc : isBlank c = false) : (blanks ++ c :: s).takeWhile isBlank = blanks := by
  rw [List.takeWhile_append_of_pos h, List.takeWhile_cons_of_neg (by simp [hc]), List.append_nil]

theorem trimStart_blank_append {blanks s : Text} {c : Char} (h : ∀ b ∈ blanks, isBlank b = true)
    (hc : isBlank c = false) : trimStart (blanks ++ c :: s) = c :: s := by
  rw [trimStart, List.dropWhile_append_of_pos h, List.dropWhile_cons_of_neg (by simp [hc])]

/-- Blanks before a character that is none end where it stands. -/
theorem blank_append_cons_inj {blanks blanks' s s' : Text} {c c' : Char}
    (h : blanks ++ c :: s = blanks' ++ c' :: s') (hblanks : ∀ b ∈ blanks, isBlank b = true)
    (hblanks' : ∀ b ∈ blanks', isBlank b = true) (hc : isBlank c = false) (hc' : isBlank c' = false) :
    blanks = blanks' ∧ c = c' ∧ s = s' := by
  have hfront := congrArg (List.takeWhile isBlank) h
  have hrest := congrArg trimStart h
  rw [takeWhile_blank_append hblanks hc, takeWhile_blank_append hblanks' hc'] at hfront
  rw [trimStart_blank_append hblanks hc, trimStart_blank_append hblanks' hc'] at hrest
  exact ⟨hfront, List.cons.inj hrest⟩

theorem isCommentLine_eq_false_iff {line : Text} : isCommentLine line = false ↔ '#' ∉ line := by
  rw [isCommentLine, ← Bool.not_eq_true, List.contains_iff_mem]

/-- The check on comments lets a line without a number sign pass. -/
theorem guard_isCommentLine_bind {line : Text} (h : '#' ∉ line) (f : Unit → Option Match) :
    (guard (!isCommentLine line) >>= f) = f () := by
  rw [isCommentLine_eq_false_iff.2 h]
  rfl

/-! ### Declarations -/

/-- A line declares the keyword: `word`, which blanks may precede, blanks, the keyword, and what opens the
parameters. -/
structure Declares (word : Text) (k : Keyword) (line indent gap found tail : Text) : Prop where
  line_eq : line = indent ++ word ++ gap ++ found ++ tail
  blank_indent : ∀ c ∈ indent, isBlank c = true
  blank_gap : ∀ c ∈ gap, isBlank c = true
  gap_ne_nil : gap ≠ []
  spells : k.Spells found
  opens : opensParameters tail = true

theorem declaredName?_eq_some_iff {k : Keyword} {s found tail : Text} :
    declaredName? k s = some (found, tail) ↔
      s = found ++ tail ∧ k.Spells found ∧ opensParameters tail = true := by
  rw [declaredName?, Option.filter_eq_some_iff, Keyword.take?_eq_some_iff, and_assoc]

/-- A line that matches as a declaration is one, and its parts are the parts of the match. -/
theorem exists_of_declaration? {role : Role} {word : Text} {k : Keyword} {line : Text} {m : Match}
    (h : declaration? role word k line = some m) :
    ∃ indent gap found tail, Declares word k line indent gap found tail ∧
      m = .ofParts role [indent, word, gap] found [tail] := by
  obtain ⟨⟨word', rest⟩, hword, h⟩ := Option.bind_eq_some_iff.1 h
  obtain ⟨⟨gap, found, tail⟩, hskip, h⟩ := Option.bind_eq_some_iff.1 h
  obtain ⟨_, hgap, hm⟩ := Option.bind_eq_some_iff.1 h
  obtain ⟨hline, rfl⟩ := takeWord?_eq_some_iff.1 hword
  obtain ⟨name, rfl, hblank, hname⟩ := eq_append_of_skipBlanks? hskip
  obtain ⟨rfl, hfound, htail⟩ := declaredName?_eq_some_iff.1 hname
  have hne : gap ≠ [] := by
    rintro rfl
    cases hgap
  refine ⟨line.takeWhile isBlank, gap, found, tail, ⟨?_, ?_, hblank, hne, hfound, htail⟩, ?_⟩
  · conv => lhs; rw [← takeWhile_append_trimStart line, hline]
    simp
  · exact fun c hc => isBlank_of_mem_takeWhile hc
  · exact (Option.some.inj hm).symm

/-! ### Assignments -/

/-- A line assigns to the keyword: the keyword, which blanks may precede, a sign, which blanks may precede too,
and the value. -/
structure Assigns (k : Keyword) (line indent found gap value : Text) : Prop where
  line_eq : line = indent ++ found ++ gap ++ '=' :: value
  blank_indent : ∀ c ∈ indent, isBlank c = true
  blank_gap : ∀ c ∈ gap, isBlank c = true
  spells : k.Spells found
  value_allowed : isValue value = true

theorem isBlank_sign : isBlank '=' = false := by decide

theorem assigned?_eq_some_iff {k : Keyword} {s found gap value : Text} :
    assigned? k s = some (found, gap, value) ↔ Assigns k s [] found gap value := by
  constructor
  · intro h
    obtain ⟨⟨found', tail⟩, hfound, hsign⟩ := Option.bind_eq_some_iff.1 h
    obtain ⟨rfl, hspells⟩ := Keyword.take?_eq_some_iff.1 hfound
    dsimp only at hsign
    split at hsign
    · next value' htrim =>
      obtain ⟨_, hvalue, he⟩ := Option.bind_eq_some_iff.1 hsign
      cases he
      refine ⟨?_, by simp, fun c hc => isBlank_of_mem_takeWhile hc, hspells, (Option.guard_eq_some' _).1 hvalue⟩
      rw [← htrim]
      simp [takeWhile_append_trimStart]
    · cases hsign
  · rintro ⟨hs, -, hgap, hspells, hvalue⟩
    have htake : k.take? s = some (found, gap ++ '=' :: value) :=
      Keyword.take?_eq_some_iff.2 ⟨by simpa using hs, hspells⟩
    refine Option.bind_eq_some_iff.2 ⟨_, htake, ?_⟩
    dsimp only
    rw [trimStart_blank_append hgap isBlank_sign, takeWhile_blank_append hgap isBlank_sign]
    exact Option.bind_eq_some_iff.2 ⟨(), (Option.guard_eq_some' _).2 hvalue, rfl⟩

/-- A line that matches as an assignment is one, and its parts are the parts of the match. -/
theorem exists_of_assignment? {k : Keyword} {line : Text} {m : Match} (h : assignment? k line = some m) :
    ∃ indent found gap value, Assigns k line indent found gap value ∧
      m = .ofParts .assignment [indent] found [gap, ['='], value] := by
  obtain ⟨⟨indent, found, gap, value⟩, hskip, hm⟩ := Option.bind_eq_some_iff.1 h
  obtain ⟨rest, rfl, hindent, hrest⟩ := eq_append_of_skipBlanks? hskip
  obtain ⟨rfl, -, hgap, hspells, hvalue⟩ := assigned?_eq_some_iff.1 hrest
  exact ⟨indent, found, gap, value, ⟨by simp, hindent, hgap, hspells, hvalue⟩, (Option.some.inj hm).symm⟩

/-! ### Other uses -/

/-- A line uses the keyword: a text that ends with a boundary character, the keyword, and what neither goes on
with the name nor assigns to it. -/
structure Uses (k : Keyword) (line before found tail : Text) : Prop where
  line_eq : line = before ++ found ++ tail
  boundary : ∃ c, before.getLast? = some c ∧ isUseBoundary c = true
  spells : k.Spells found
  ends : endsUse tail = true

/-- A use in a text that follows other text.  `boundary` says whether that ends with a boundary character. -/
structure IsUseFrom (k : Keyword) (boundary : Bool) (s before found tail : Text) : Prop where
  text_eq : s = before ++ found ++ tail
  boundary : before.getLast?.elim boundary isUseBoundary = true
  spells : k.Spells found
  ends : endsUse tail = true

section LastUse

variable {k : Keyword} {boundary : Bool} {s before found tail : Text} {c : Char}

theorem useAt?_eq_some_iff : useAt? k s = some (found, tail) ↔
    s = found ++ tail ∧ k.Spells found ∧ endsUse tail = true := by
  rw [useAt?, Option.filter_eq_some_iff, Keyword.take?_eq_some_iff, and_assoc]

/-- A use starts at the first character of a text, or it is one in what follows that character. -/
theorem isUseFrom_cons_iff : IsUseFrom k boundary (c :: s) before found tail ↔
    (before = [] ∧ boundary = true ∧ useAt? k (c :: s) = some (found, tail)) ∨
      ∃ more, before = c :: more ∧ IsUseFrom k (isUseBoundary c) s more found tail := by
  constructor
  · rintro ⟨htext, hboundary, hspells, hends⟩
    cases before with
    | nil => exact .inl ⟨rfl, hboundary, useAt?_eq_some_iff.2 ⟨htext, hspells, hends⟩⟩
    | cons d more =>
      obtain ⟨rfl, hs⟩ := List.cons.inj htext
      refine .inr ⟨more, rfl, hs, ?_, hspells, hends⟩
      rw [List.getLast?_cons] at hboundary
      cases hlast : more.getLast? <;> simpa [hlast] using hboundary
  · rintro (⟨rfl, hboundary, huse⟩ | ⟨more, rfl, htext, hboundary, hspells, hends⟩)
    · obtain ⟨htext, hspells, hends⟩ := useAt?_eq_some_iff.1 huse
      exact ⟨htext, hboundary, hspells, hends⟩
    · refine ⟨by rw [htext]; rfl, ?_, hspells, hends⟩
      rw [List.getLast?_cons]
      cases hlast : more.getLast? <;> simpa [hlast] using hboundary

/-- The last use in a text is one. -/
theorem IsUseFrom.of_lastUse? (h : lastUse? k boundary s = some (before, found, tail)) :
    IsUseFrom k boundary s before found tail := by
  induction s generalizing boundary before with
  | nil => cases h
  | cons c s ih =>
    rw [lastUse?] at h
    split at h
    -- a use further on is taken first, and `c` is the character before it
    · next hlast =>
      cases h
      exact isUseFrom_cons_iff.2 (.inr ⟨_, rfl, ih hlast⟩)
    · split at h
      · next hboundary =>
        obtain ⟨⟨found', tail'⟩, huse, heq⟩ := Option.map_eq_some_iff.1 h
        cases heq
        exact isUseFrom_cons_iff.2 (.inl ⟨rfl, hboundary, huse⟩)
      · cases h

end LastUse

/-- A line that matches as another use is one, and its parts are the fragments of the match. -/
theorem exists_of_otherUse? {k : Keyword} {line : Text} {m : Match} (h : otherUse? k line = some m) :
    ∃ before found tail, Uses k line before found tail ∧
      m = ⟨.otherUse, before :: found :: (if tail.isEmpty then [] else [tail]), 1⟩ := by
  obtain ⟨_, -, h⟩ := Option.bind_eq_some_iff.1 h
  obtain ⟨⟨before, found, tail⟩, hlast, hm⟩ := Option.bind_eq_some_iff.1 h
  obtain ⟨hline, hboundary, hspells, hends⟩ := IsUseFrom.of_lastUse? hlast
  refine ⟨before, found, tail, ⟨hline, ?_, hspells, hends⟩, (Option.some.inj hm).symm⟩
  cases hl : before.getLast? with
  | none =>
    rw [hl] at hboundary
    cases hboundary
  | some c =>
    rw [hl] at hboundary
    exact ⟨c, rfl, hboundary⟩

/-! ### All roles -/

/-- A line that matches in a role has one of the three forms, and the match is made of its parts. -/
theorem Role.form_of_match? {role : Role} {k : Keyword} {line : Text} {m : Match}
    (h : role.match? k line = some m) :
    (∃ word indent gap found tail, Declares word k line indent gap found tail ∧
      m = .ofParts role [indent, word, gap] found [tail]) ∨
    (∃ indent found gap value, Assigns k line indent found gap value ∧
      m = .ofParts role [indent] found [gap, ['='], value]) ∨
    (∃ before found tail, Uses k line before found tail ∧
      m = ⟨role, before :: found :: (if tail.isEmpty then [] else [tail]), 1⟩) := by
  obtain ⟨_, -, h⟩ := Option.bind_eq_some_iff.1 h
  cases role with
  | classDecl => exact .inl ⟨_, exists_of_declaration? h⟩
  | functionDecl => exact .inl ⟨_, exists_of_declaration? h⟩
  | assignment => exact .inr (.inl (exists_of_assignment? h))
  | otherUse => exact .inr (.inr (exists_of_otherUse? h))

end KeywordFinder
