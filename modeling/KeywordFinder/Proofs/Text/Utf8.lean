import KeywordFinder.Text.Utf8

/-!
# Decoding undoes encoding

A byte string decodes to a text exactly if it is the encoding of that text (`decode?_eq_some_iff`).  The first
piece of a byte string is a character exactly if the byte string starts with its encoding
(`Utf8.pieces_eq_cons_iff`), which is checked byte by byte after the leading one.
-/

namespace KeywordFinder

namespace Utf8

/-! ### One byte -/

theorem pieces_pending_ne_nil (p : Pending) (s : Bytes) : pieces (some p) s ≠ [] := by
  induction s generalizing p with
  | nil => simp [pieces]
  | cons b s ih =>
    simp only [pieces, step]
    split
    · split
      · simp
      · simpa using ih _
    · simp

theorem pieces_none_eq_nil_iff {s : Bytes} : pieces none s = [] ↔ s = [] := by
  constructor
  · intro h
    cases s with
    | nil => rfl
    | cons b s =>
      -- a leading byte yields a piece or leaves a character pending
      have hne : (start b).1 ≠ [] ∨ ∃ p, (start b).2 = some p := by
        simp only [start]
        repeat' split
        all_goals simp
      obtain ⟨h₁, h₂⟩ := List.append_eq_nil_iff.1 h
      rcases hne with hne | ⟨p, hp⟩
      · exact absurd h₁ hne
      · have : (step none b).2 = some p := hp
        rw [this] at h₂
        exact absurd h₂ (pieces_pending_ne_nil p s)
  · rintro rfl
    rfl

private theorem exists_cons_iff {b : UInt8} {s : Bytes} {P : UInt8 → Bytes → Prop} :
    (∃ b' s', b :: s = b' :: s' ∧ P b' s') ↔ P b s := by
  constructor
  · rintro ⟨b', s', h, hp⟩
    cases h
    exact hp
  · intro hp
    exact ⟨b, s, rfl, hp⟩

/-- The last byte of a character completes it. -/
private theorem pieces_last_iff {least most bits : Nat} {s : Bytes} {c : Char} {ps : List (Option Char)} :
    pieces (some ⟨1, least, most, bits⟩) s = some c :: ps ↔
      ∃ b r, s = b :: r ∧ (least ≤ b.toNat ∧ b.toNat ≤ most) ∧ Char.ofNat (bits * 64 + b.toNat % 64) = c ∧
        pieces none r = ps := by
  cases s with
  | nil => simp [pieces]
  | cons b s =>
    rw [exists_cons_iff]
    by_cases hb : least ≤ b.toNat ∧ b.toNat ≤ most
    · simp [pieces, step, hb]
    · rw [pieces, step, if_neg (by simpa using hb)]
      simp [hb]

/-- A byte before the last one adds its bits. -/
private theorem pieces_more_iff {n least most bits : Nat} {s : Bytes} {c : Char} {ps : List (Option Char)} :
    pieces (some ⟨n + 2, least, most, bits⟩) s = some c :: ps ↔
      ∃ b r, s = b :: r ∧ (least ≤ b.toNat ∧ b.toNat ≤ most) ∧
        pieces (some ⟨n + 1, 0x80, 0xBF, bits * 64 + b.toNat % 64⟩) r = some c :: ps := by
  cases s with
  | nil => simp [pieces]
  | cons b s =>
    rw [exists_cons_iff]
    by_cases hb : least ≤ b.toNat ∧ b.toNat ≤ most
    · simp [pieces, step, hb]
    · rw [pieces, step, if_neg (by simpa using hb)]
      simp [hb]

/-! ### One character -/

/-- The leading byte of a character of one byte is that character. -/
private theorem pieces_one {b : UInt8} {s : Bytes} (hb : b.toNat < 0x80) :
    pieces none (b :: s) = some (Char.ofNat b.toNat) :: pieces none s := by
  simp [pieces, step, start, hb]

/-- The leading byte of a character of two bytes. -/
private theorem pieces_two {b : UInt8} {s : Bytes} (h₁ : 0xC2 ≤ b.toNat) (h₂ : b.toNat < 0xE0) :
    pieces none (b :: s) = pieces (some ⟨1, 0x80, 0xBF, b.toNat - 0xC0⟩) s := by
  simp only [pieces, step, start]
  rw [if_neg (by omega), if_neg (by omega), if_pos (by omega)]
  rfl

/-- The leading byte of a character of three bytes. -/
private theorem pieces_three {b : UInt8} {s : Bytes} (h₁ : 0xE0 ≤ b.toNat) (h₂ : b.toNat < 0xF0) :
    pieces none (b :: s) = pieces (some ⟨2, if b.toNat = 0xE0 then 0xA0 else 0x80,
      if b.toNat = 0xED then 0x9F else 0xBF, b.toNat - 0xE0⟩) s := by
  simp only [pieces, step, start]
  rw [if_neg (by omega), if_neg (by omega), if_neg (by omega), if_pos (by omega)]
  rfl

/-- The leading byte of a character of four bytes. -/
private theorem pieces_four {b : UInt8} {s : Bytes} (h₁ : 0xF0 ≤ b.toNat) (h₂ : b.toNat < 0xF5) :
    pieces none (b :: s) = pieces (some ⟨3, if b.toNat = 0xF0 then 0x90 else 0x80,
      if b.toNat = 0xF4 then 0x8F else 0xBF, b.toNat - 0xF0⟩) s := by
  simp only [pieces, step, start]
  rw [if_neg (by omega), if_neg (by omega), if_neg (by omega), if_neg (by omega), if_pos (by omega)]
  rfl

/-- All other bytes start no character. -/
private theorem pieces_undecodable {b : UInt8} {s : Bytes}
    (hb : 0x80 ≤ b.toNat ∧ b.toNat < 0xC2 ∨ 0xF5 ≤ b.toNat) : pieces none (b :: s) = none :: pieces none s := by
  simp only [pieces, step, start]
  rw [if_neg (by omega)]
  split
  · rfl
  · rw [if_neg (by omega), if_neg (by omega), if_neg (by omega)]
    rfl

private theorem toNat_ofNat_of_isValidChar {n : Nat} (h : n < 0xD800 ∨ 0xDFFF < n ∧ n < 0x110000) :
    (Char.ofNat n).toNat = n := by
  rw [Char.ofNat, dif_pos h]
  rfl

private theorem ofNat_eq_byte {n : Nat} {b : UInt8} (h : n = b.toNat) : UInt8.ofNat n = b := by
  rw [h, UInt8.ofNat_toNat]

private theorem encode_one {c : Char} (h : c.toNat < 0x80) :
    String.utf8EncodeChar c = [UInt8.ofNat c.toNat] := by
  unfold String.utf8EncodeChar
  exact if_pos (by omega : c.toNat ≤ 0x7F)

private theorem encode_two {c : Char} (h₁ : 0x80 ≤ c.toNat) (h₂ : c.toNat < 0x800) :
    String.utf8EncodeChar c =
      [UInt8.ofNat (c.toNat / 64 % 0x20 + 0xC0), UInt8.ofNat (c.toNat % 0x40 + 0x80)] := by
  unfold String.utf8EncodeChar
  simp only [Char.toNat_val]
  rw [if_neg (by omega), if_pos (by omega)]

private theorem encode_three {c : Char} (h₁ : 0x800 ≤ c.toNat) (h₂ : c.toNat < 0x10000) :
    String.utf8EncodeChar c =
      [UInt8.ofNat (c.toNat / 4096 % 0x10 + 0xE0), UInt8.ofNat (c.toNat / 64 % 0x40 + 0x80),
        UInt8.ofNat (c.toNat % 0x40 + 0x80)] := by
  unfold String.utf8EncodeChar
  simp only [Char.toNat_val]
  rw [if_neg (by omega), if_neg (by omega), if_pos (by omega)]

private theorem encode_four {c : Char} (h : 0x10000 ≤ c.toNat) :
    String.utf8EncodeChar c =
      [UInt8.ofNat (c.toNat / 262144 % 0x08 + 0xF0), UInt8.ofNat (c.toNat / 4096 % 0x40 + 0x80),
        UInt8.ofNat (c.toNat / 64 % 0x40 + 0x80), UInt8.ofNat (c.toNat % 0x40 + 0x80)] := by
  unfold String.utf8EncodeChar
  simp only [Char.toNat_val]
  rw [if_neg (by omega), if_neg (by omega), if_neg (by omega)]

/-- Bytes that are read as a character are its encoding. -/
private theorem eq_encode_of_pieces {s : Bytes} {c : Char} {ps : List (Option Char)}
    (h : pieces none s = some c :: ps) : ∃ r, s = String.utf8EncodeChar c ++ r ∧ pieces none r = ps := by
  cases s with
  | nil => cases h
  | cons b s =>
    by_cases h₁ : b.toNat < 0x80
    · rw [pieces_one h₁] at h
      obtain ⟨hc, hps⟩ := List.cons.inj h
      cases hc
      refine ⟨s, ?_, hps⟩
      have hn : (Char.ofNat b.toNat).toNat = b.toNat := toNat_ofNat_of_isValidChar (by omega)
      rw [encode_one (by omega), ofNat_eq_byte hn]
      rfl
    by_cases h₂ : b.toNat < 0xC2
    · rw [pieces_undecodable (by omega)] at h
      cases h
    by_cases h₃ : b.toNat < 0xE0
    · rw [pieces_two (by omega) h₃, pieces_last_iff] at h
      obtain ⟨b₂, r, rfl, hb₂, rfl, hps⟩ := h
      refine ⟨r, ?_, hps⟩
      have hn := toNat_ofNat_of_isValidChar (n := (b.toNat - 0xC0) * 64 + b₂.toNat % 64) (by omega)
      rw [encode_two (by omega) (by omega), hn, ofNat_eq_byte (b := b) (by omega),
        ofNat_eq_byte (b := b₂) (by omega)]
      rfl
    by_cases h₄ : b.toNat < 0xF0
    · rw [pieces_three (by omega) h₄, pieces_more_iff] at h
      obtain ⟨b₂, r, rfl, ⟨hl, hu⟩, h⟩ := h
      obtain ⟨b₃, r, rfl, hb₃, rfl, hps⟩ := pieces_last_iff.1 h
      refine ⟨r, ?_, hps⟩
      -- no overlong encoding and no surrogate
      have hb₂ : 0x80 ≤ b₂.toNat ∧ (b.toNat = 0xE0 → 0xA0 ≤ b₂.toNat) ∧ b₂.toNat ≤ 0xBF ∧
          (b.toNat = 0xED → b₂.toNat ≤ 0x9F) := by
        split at hl <;> split at hu <;> omega
      have hn := toNat_ofNat_of_isValidChar
        (n := ((b.toNat - 0xE0) * 64 + b₂.toNat % 64) * 64 + b₃.toNat % 64) (by omega)
      rw [encode_three (by omega) (by omega), hn, ofNat_eq_byte (b := b) (by omega),
        ofNat_eq_byte (b := b₂) (by omega), ofNat_eq_byte (b := b₃) (by omega)]
      rfl
    by_cases h₅ : b.toNat < 0xF5
    · rw [pieces_four (by omega) h₅, pieces_more_iff] at h
      obtain ⟨b₂, r, rfl, ⟨hl, hu⟩, h⟩ := h
      obtain ⟨b₃, r, rfl, hb₃, h⟩ := pieces_more_iff.1 h
      obtain ⟨b₄, r, rfl, hb₄, rfl, hps⟩ := pieces_last_iff.1 h
      refine ⟨r, ?_, hps⟩
      -- no overlong encoding and nothing beyond the last code point
      have hb₂ : 0x80 ≤ b₂.toNat ∧ (b.toNat = 0xF0 → 0x90 ≤ b₂.toNat) ∧ b₂.toNat ≤ 0xBF ∧
          (b.toNat = 0xF4 → b₂.toNat ≤ 0x8F) := by
        split at hl <;> split at hu <;> omega
      have hn := toNat_ofNat_of_isValidChar
        (n := (((b.toNat - 0xF0) * 64 + b₂.toNat % 64) * 64 + b₃.toNat % 64) * 64 + b₄.toNat % 64) (by omega)
      rw [encode_four (by omega), hn, ofNat_eq_byte (b := b) (by omega), ofNat_eq_byte (b := b₂) (by omega),
        ofNat_eq_byte (b := b₃) (by omega), ofNat_eq_byte (b := b₄) (by omega)]
      rfl
    · rw [pieces_undecodable (by omega)] at h
      cases h

/-- The encoding of a character is read as that character. -/
private theorem pieces_encode (c : Char) (r : Bytes) :
    pieces none (String.utf8EncodeChar c ++ r) = some c :: pieces none r := by
  have hc : c.toNat < 0xD800 ∨ 0xDFFF < c.toNat ∧ c.toNat < 0x110000 := c.valid
  have hbyte : ∀ n, n < 256 → (UInt8.ofNat n).toNat = n := fun n hn => UInt8.toNat_ofNat_of_lt' hn
  by_cases h₁ : c.toNat < 0x80
  · rw [encode_one h₁, List.singleton_append, pieces_one (by rw [hbyte] <;> omega), hbyte _ (by omega),
      Char.ofNat_toNat]
  by_cases h₂ : c.toNat < 0x800
  · have e₁ := hbyte (c.toNat / 64 % 0x20 + 0xC0) (by omega)
    have e₂ := hbyte (c.toNat % 0x40 + 0x80) (by omega)
    rw [encode_two (by omega) h₂, List.cons_append, pieces_two (by omega) (by omega), pieces_last_iff]
    refine ⟨_, r, rfl, by omega, ?_, rfl⟩
    have hbits : (c.toNat / 64 % 0x20 + 0xC0 - 0xC0) * 64 + (c.toNat % 0x40 + 0x80) % 64 = c.toNat := by omega
    rw [e₁, e₂, hbits, Char.ofNat_toNat]
  by_cases h₃ : c.toNat < 0x10000
  · have e₁ := hbyte (c.toNat / 4096 % 0x10 + 0xE0) (by omega)
    have e₂ := hbyte (c.toNat / 64 % 0x40 + 0x80) (by omega)
    have e₃ := hbyte (c.toNat % 0x40 + 0x80) (by omega)
    rw [encode_three (by omega) h₃, List.cons_append, pieces_three (by omega) (by omega), pieces_more_iff]
    refine ⟨_, _, rfl, ?_, ?_⟩
    · constructor <;> split <;> omega
    rw [pieces_last_iff]
    refine ⟨_, r, rfl, by omega, ?_, rfl⟩
    have hbits : ((c.toNat / 4096 % 0x10 + 0xE0 - 0xE0) * 64 + (c.toNat / 64 % 0x40 + 0x80) % 64) * 64 +
        (c.toNat % 0x40 + 0x80) % 64 = c.toNat := by omega
    rw [e₁, e₂, e₃, hbits, Char.ofNat_toNat]
  · have e₁ := hbyte (c.toNat / 262144 % 0x08 + 0xF0) (by omega)
    have e₂ := hbyte (c.toNat / 4096 % 0x40 + 0x80) (by omega)
    have e₃ := hbyte (c.toNat / 64 % 0x40 + 0x80) (by omega)
    have e₄ := hbyte (c.toNat % 0x40 + 0x80) (by omega)
    rw [encode_four (by omega), List.cons_append, pieces_four (by omega) (by omega), pieces_more_iff]
    refine ⟨_, _, rfl, ?_, ?_⟩
    · constructor <;> split <;> omega
    rw [pieces_more_iff]
    refine ⟨_, _, rfl, by omega, ?_⟩
    rw [pieces_last_iff]
    refine ⟨_, r, rfl, by omega, ?_, rfl⟩
    have hbits : (((c.toNat / 262144 % 0x08 + 0xF0 - 0xF0) * 64 + (c.toNat / 4096 % 0x40 + 0x80) % 64) * 64 +
        (c.toNat / 64 % 0x40 + 0x80) % 64) * 64 + (c.toNat % 0x40 + 0x80) % 64 = c.toNat := by omega
    rw [e₁, e₂, e₃, e₄, hbits, Char.ofNat_toNat]

/-- A byte string is read as a character and further pieces exactly if it starts with the encoding of that
character. -/
theorem pieces_eq_cons_iff {s : Bytes} {c : Char} {ps : List (Option Char)} :
    pieces none s = some c :: ps ↔ ∃ r, s = String.utf8EncodeChar c ++ r ∧ pieces none r = ps := by
  constructor
  · exact eq_encode_of_pieces
  · rintro ⟨r, rfl, rfl⟩
    exact pieces_encode c r

/-! ### Undecodable parts -/

/-- Behind a character that is broken off, reading starts afresh. -/
private theorem exists_suffix_of_pending {p : Pending} {s : Bytes} {ps : List (Option Char)}
    (h : pieces (some p) s = none :: ps) : ∃ r, r <:+ s ∧ pieces none r = ps := by
  induction s generalizing p with
  | nil =>
    cases h
    exact ⟨[], List.suffix_refl _, rfl⟩
  | cons b s ih =>
    rw [pieces, step] at h
    split at h
    · split at h
      · cases h
      · obtain ⟨r, hr, hps⟩ := ih h
        exact ⟨r, hr.trans (List.suffix_cons b s), hps⟩
    · -- the byte that does not go on begins a part of its own
      exact ⟨b :: s, List.suffix_refl _, (List.cons.inj h).2⟩

/-- Behind an undecodable part, reading starts afresh. -/
private theorem exists_suffix_of_undecodable {b : UInt8} {s : Bytes} {ps : List (Option Char)}
    (h : pieces none (b :: s) = none :: ps) : ∃ r, r <:+ s ∧ pieces none r = ps := by
  by_cases h₁ : b.toNat < 0x80
  · rw [pieces_one h₁] at h
    cases h
  by_cases h₂ : b.toNat < 0xC2 ∨ 0xF5 ≤ b.toNat
  · rw [pieces_undecodable (by omega)] at h
    exact ⟨s, List.suffix_refl _, (List.cons.inj h).2⟩
  by_cases h₃ : b.toNat < 0xE0
  · rw [pieces_two (by omega) h₃] at h
    exact exists_suffix_of_pending h
  by_cases h₄ : b.toNat < 0xF0
  · rw [pieces_three (by omega) h₄] at h
    exact exists_suffix_of_pending h
  · rw [pieces_four (by omega) (by omega)] at h
    exact exists_suffix_of_pending h

/-- A character among the pieces of a byte string stands there in its encoding. -/
theorem infix_of_mem_pieces {s : Bytes} {c : Char} (h : some c ∈ pieces none s) :
    String.utf8EncodeChar c <:+: s := by
  induction hn : s.length using Nat.strongRecOn generalizing s with
  | ind n ih =>
    cases hpieces : pieces none s with
    | nil =>
      rw [hpieces] at h
      cases h
    | cons piece ps =>
      rw [hpieces] at h
      cases piece with
      | some d =>
        obtain ⟨r, rfl, rfl⟩ := pieces_eq_cons_iff.1 hpieces
        rcases List.mem_cons.1 h with heq | hrest
        · cases heq
          exact (List.prefix_append _ r).isInfix
        · have hshorter : r.length < n := by
            have hd := String.length_utf8EncodeChar d
            have hpos := d.utf8Size_pos
            rw [List.length_append] at hn
            omega
          exact (ih _ hshorter hrest rfl).trans (List.suffix_append _ r).isInfix
      | none =>
        cases s with
        | nil => cases hpieces
        | cons b s =>
          obtain ⟨r, hr, rfl⟩ := exists_suffix_of_undecodable hpieces
          have hrest : some c ∈ pieces none r := (List.mem_cons.1 h).resolve_left (by simp)
          have hshorter : r.length < n := by
            have hle := hr.length_le
            rw [List.length_cons] at hn
            omega
          exact (ih _ hshorter hrest rfl).trans (hr.trans (List.suffix_cons b s)).isInfix

end Utf8

/-! ### Texts -/

private theorem mapM_id_eq_some_iff {l : List (Option Char)} {t : Text} :
    l.mapM id = some t ↔ l = t.map some := by
  induction l generalizing t with
  | nil => cases t <;> simp
  | cons a l ih =>
    rw [List.mapM_cons, Option.bind_eq_bind, Option.bind_eq_some_iff]
    simp only [Option.bind_eq_bind, Option.bind_eq_some_iff, Option.pure_def, Option.some.injEq, id_eq, ih]
    constructor
    · rintro ⟨c, rfl, t, rfl, rfl⟩
      rfl
    · intro h
      cases t with
      | nil => cases h
      | cons c t =>
        obtain ⟨rfl, rfl⟩ := List.cons.inj h
        exact ⟨c, rfl, t, rfl, rfl⟩

theorem encode_append (s t : Text) : encode (s ++ t) = encode s ++ encode t := List.flatMap_append

/-- A byte string decodes to a text exactly if it is the encoding of that text. -/
theorem decode?_eq_some_iff {s : Bytes} {t : Text} : decode? s = some t ↔ encode t = s := by
  rw [decode?, mapM_id_eq_some_iff]
  induction t generalizing s with
  | nil => rw [List.map_nil, Utf8.pieces_none_eq_nil_iff, eq_comm, encode, List.flatMap_nil]
  | cons c t ih =>
    rw [List.map_cons, Utf8.pieces_eq_cons_iff]
    simp only [ih]
    constructor
    · rintro ⟨r, rfl, rfl⟩
      rfl
    · rintro rfl
      exact ⟨encode t, rfl, rfl⟩

/-- A character of the text that a byte string is displayed as stands there in its encoding, unless it replaces an
undecodable part. -/
theorem infix_of_mem_decodeLossy {s : Bytes} {c : Char} (h : c ∈ decodeLossy s) (hc : c ≠ Char.ofNat 0xFFFD) :
    String.utf8EncodeChar c <:+: s := by
  obtain ⟨piece, hpiece, hdisplayed⟩ := List.mem_map.1 h
  cases piece with
  | none => exact absurd hdisplayed.symm hc
  | some d =>
    cases hdisplayed
    exact Utf8.infix_of_mem_pieces hpiece

end KeywordFinder
