import KeywordFinder.Scan.Reading

/-!
# Lines of a whole content

The lines that a reader yields depend on the bytes that it delivers alone.  A content is cut into lines in one pass
over its bytes (`universalLines`), and the lines of the pieces between line feeds are those lines
(`linesRead_eq`): carriage returns end lines inside a piece, and the line feed at its end goes with a carriage
return right before it.
-/

namespace KeywordFinder

/-! ### Cutting in one pass -/

/-- Puts a byte in front of the first line. -/
def consLine (b : UInt8) : List Bytes → List Bytes
  | [] => [[b]]
  | l :: ls => (b :: l) :: ls

/-- The lines of a content that is read from its start or right after a carriage return.  A line feed there
belongs to the line that the carriage return has ended. -/
def linesFrom (afterReturn : Bool) : Bytes → List Bytes
  | [] => []
  | b :: s =>
    if b = lineFeed then if afterReturn then linesFrom false s else [] :: linesFrom false s
    else if b = carriageReturn then [] :: linesFrom true s
    else consLine b (linesFrom false s)

/-- The lines of a content, each ended by a line feed, a carriage return or both.  What follows the last of these
is a line if it is not empty. -/
def universalLines (s : Bytes) : List Bytes := linesFrom false s

theorem consLine_append {b : UInt8} {ls : List Bytes} (h : ls ≠ []) (ls' : List Bytes) :
    consLine b (ls ++ ls') = consLine b ls ++ ls' := by
  cases ls with
  | nil => exact absurd rfl h
  | cons l ls => rfl

private theorem splitAtReturns_cons_return (s : Bytes) :
    splitAtReturns (carriageReturn :: s) = [] :: splitAtReturns s := by
  simp [splitAtReturns]

private theorem splitAtReturns_cons {b : UInt8} (hb : b ≠ carriageReturn) (s : Bytes) :
    splitAtReturns (b :: s) = consLine b (splitAtReturns s) := by
  rw [splitAtReturns, if_neg hb]
  cases splitAtReturns s <;> rfl

private theorem splitAtReturns_ne_nil (s : Bytes) : splitAtReturns s ≠ [] := by
  cases s with
  | nil => simp [splitAtReturns]
  | cons b s =>
    by_cases hb : b = carriageReturn
    · rw [hb, splitAtReturns_cons_return]
      exact List.cons_ne_nil _ _
    · rw [splitAtReturns_cons hb]
      cases splitAtReturns s <;> exact List.cons_ne_nil _ _

private theorem stripLast_cons {b c : UInt8} {s : Bytes} (h : s ≠ [] ∨ c ≠ b) :
    stripLast b (c :: s) = c :: stripLast b s := by
  cases s with
  | nil =>
    have hc : c ≠ b := h.resolve_left (fun hne => hne rfl)
    simp [stripLast, hc]
  | cons d s =>
    simp only [stripLast, List.getLast?_cons_cons]
    split <;> rfl

private theorem stripLast_singleton (b : UInt8) : stripLast b [b] = [] := by
  simp [stripLast]

/-- After a carriage return, only a line feed is read in another way. -/
private theorem linesFrom_eq_universalLines {s : Bytes} (h : s.head? ≠ some lineFeed) (afterReturn : Bool) :
    linesFrom afterReturn s = universalLines s := by
  cases s with
  | nil => rfl
  | cons b s =>
    have hb : b ≠ lineFeed := fun hb => h (by rw [hb]; rfl)
    simp only [universalLines, linesFrom, if_neg hb]

private theorem universalLines_cons {b : UInt8} (hfeed : b ≠ lineFeed) (hreturn : b ≠ carriageReturn)
    (s : Bytes) : universalLines (b :: s) = consLine b (universalLines s) := by
  rw [universalLines, linesFrom, if_neg hfeed, if_neg hreturn]
  rfl

private theorem universalLines_cons_return {s : Bytes} (h : s.head? ≠ some lineFeed) :
    universalLines (carriageReturn :: s) = [] :: universalLines s := by
  rw [universalLines, linesFrom, if_neg (by decide), if_pos rfl, linesFrom_eq_universalLines h]

/-- The lines of a piece up to a line feed are cut off the front. -/
theorem universalLines_append_feed {body : Bytes} (h : lineFeed ∉ body) (s : Bytes) :
    universalLines (body ++ lineFeed :: s) =
      splitAtReturns (stripLast carriageReturn body) ++ universalLines s := by
  induction body with
  | nil => rfl
  | cons b body ih =>
    obtain ⟨hb, hbody⟩ := List.ne_and_not_mem_of_not_mem_cons h
    have ih := ih hbody
    by_cases hr : b = carriageReturn
    · subst hr
      cases body with
      | nil =>
        -- the carriage return and the line feed end one line
        rw [stripLast_singleton]
        rfl
      | cons c body =>
        have hc : (c :: body ++ lineFeed :: s).head? ≠ some lineFeed := by
          intro hc
          exact hbody (by simpa [eq_comm] using Or.inl hc)
        rw [List.cons_append, universalLines_cons_return hc, ih, stripLast_cons (.inl (List.cons_ne_nil _ _)),
          splitAtReturns_cons_return, List.cons_append]
    · rw [List.cons_append, universalLines_cons (Ne.symm hb) hr, ih, stripLast_cons (.inr hr),
        splitAtReturns_cons hr, consLine_append (splitAtReturns_ne_nil _)]

/-- A content without line feeds is one piece. -/
theorem universalLines_of_not_mem {s : Bytes} (h : lineFeed ∉ s) (hs : s ≠ []) :
    universalLines s = splitAtReturns (stripLast carriageReturn s) := by
  induction s with
  | nil => exact absurd rfl hs
  | cons b s ih =>
    obtain ⟨hb, hmem⟩ := List.ne_and_not_mem_of_not_mem_cons h
    have hhead : s.head? ≠ some lineFeed := fun hh => hmem (List.mem_of_mem_head? hh)
    by_cases hr : b = carriageReturn
    · subst hr
      rw [universalLines_cons_return hhead]
      cases s with
      | nil => rw [stripLast_singleton]; rfl
      | cons c s =>
        rw [ih hmem (List.cons_ne_nil _ _), stripLast_cons (.inl (List.cons_ne_nil _ _)),
          splitAtReturns_cons_return]
    · rw [universalLines_cons (Ne.symm hb) hr, stripLast_cons (.inr hr), splitAtReturns_cons hr]
      cases s with
      | nil => rfl
      | cons c s => rw [ih hmem (List.cons_ne_nil _ _)]

/-! ### Cutting at line feeds -/

private theorem resume_resume (s t : Bytes) (cut : List Bytes × Bytes) :
    resume s (resume t cut) = resume (s ++ t) cut := by
  obtain ⟨ps, r⟩ := cut
  cases ps <;> simp [resume]

private theorem cutAtFeeds_cons (b : UInt8) (s : Bytes) :
    cutAtFeeds (b :: s) =
      if b = lineFeed then ([b] :: (cutAtFeeds s).1, (cutAtFeeds s).2) else resume [b] (cutAtFeeds s) := by
  rw [cutAtFeeds]
  split
  · next p ps r h =>
    rw [h]
    rfl
  · next r h =>
    rw [h]
    rfl

/-- Bytes without a line feed go to the first piece. -/
theorem cutAtFeeds_append_of_not_mem {held : Bytes} (h : lineFeed ∉ held) (s : Bytes) :
    cutAtFeeds (held ++ s) = resume held (cutAtFeeds s) := by
  induction held with
  | nil =>
    rw [List.nil_append]
    cases cutAtFeeds s with
    | mk ps r => cases ps <;> rfl
  | cons b held ih =>
    obtain ⟨hb, hheld⟩ := List.ne_and_not_mem_of_not_mem_cons h
    rw [List.cons_append, cutAtFeeds_cons, if_neg (Ne.symm hb), ih hheld, resume_resume, List.singleton_append]

/-- Cutting can stop at any byte and go on from what is not cut yet. -/
theorem cutAtFeeds_append (s t : Bytes) :
    cutAtFeeds (s ++ t) =
      ((cutAtFeeds s).1 ++ (cutAtFeeds ((cutAtFeeds s).2 ++ t)).1, (cutAtFeeds ((cutAtFeeds s).2 ++ t)).2) := by
  induction s with
  | nil => rfl
  | cons b s ih =>
    rw [List.cons_append, cutAtFeeds_cons, cutAtFeeds_cons b s, ih]
    by_cases hb : b = lineFeed
    · simp [hb]
    · rw [if_neg hb, if_neg hb]
      cases hcut : cutAtFeeds s with
      | mk ps r =>
        cases ps with
        | cons p ps => rfl
        | nil =>
          have hcons : cutAtFeeds ([b] ++ r ++ t) = resume [b] (cutAtFeeds (r ++ t)) := by
            rw [List.append_assoc, List.singleton_append, cutAtFeeds_cons, if_neg hb]
          show resume [b] (cutAtFeeds (r ++ t)) = ((cutAtFeeds ([b] ++ r ++ t)).1, (cutAtFeeds ([b] ++ r ++ t)).2)
          rw [hcons]

private theorem not_mem_cutAtFeeds_snd (s : Bytes) : lineFeed ∉ (cutAtFeeds s).2 := by
  induction s with
  | nil => simp [cutAtFeeds]
  | cons b s ih =>
    rw [cutAtFeeds_cons]
    by_cases hb : b = lineFeed
    · simpa [hb] using ih
    · rw [if_neg hb]
      cases hcut : cutAtFeeds s with
      | mk ps r =>
        rw [hcut] at ih
        cases ps with
        | cons p ps => exact ih
        | nil => simpa [resume, Ne.symm hb] using ih

private theorem exists_of_mem_cutAtFeeds {s p : Bytes} (h : p ∈ (cutAtFeeds s).1) :
    ∃ body, p = body ++ [lineFeed] ∧ lineFeed ∉ body := by
  induction s generalizing p with
  | nil => cases h
  | cons b s ih =>
    rw [cutAtFeeds_cons] at h
    by_cases hb : b = lineFeed
    · rw [if_pos hb] at h
      rcases List.mem_cons.1 h with rfl | h
      · exact ⟨[], by simp [hb], by simp⟩
      · exact ih h
    · rw [if_neg hb] at h
      cases hcut : cutAtFeeds s with
      | mk ps r =>
        rw [hcut] at h ih
        cases ps with
        | nil => cases h
        | cons p' ps =>
          rcases List.mem_cons.1 h with rfl | h
          · obtain ⟨body, rfl, hbody⟩ := ih List.mem_cons_self
            exact ⟨b :: body, rfl, List.not_mem_cons_of_ne_of_not_mem (Ne.symm hb) hbody⟩
          · exact ih (List.mem_cons_of_mem _ h)

/-- What is left after the last line feed, as a piece if it is not empty. -/
def lastPiece (rest : Bytes) : List Bytes := if rest.isEmpty then [] else [rest]

private theorem universalLines_flatten {ps : List Bytes} (rest : Bytes)
    (hps : ∀ p ∈ ps, ∃ body, p = body ++ [lineFeed] ∧ lineFeed ∉ body) (hrest : lineFeed ∉ rest) :
    universalLines (ps.flatten ++ rest) = (ps ++ lastPiece rest).flatMap linesOfPiece := by
  induction ps with
  | nil =>
    cases rest with
    | nil => rfl
    | cons b rest =>
      have hstrip : stripLast lineFeed (b :: rest) = b :: rest := by
        rw [stripLast, if_neg]
        exact fun hlast => hrest (List.mem_of_getLast? hlast)
      rw [List.flatten_nil, List.nil_append, universalLines_of_not_mem hrest (List.cons_ne_nil _ _)]
      simp [lastPiece, linesOfPiece, hstrip]
  | cons p ps ih =>
    obtain ⟨body, rfl, hbody⟩ := hps p List.mem_cons_self
    have hstrip : stripLast lineFeed (body ++ [lineFeed]) = body := by simp [stripLast]
    rw [List.flatten_cons, List.append_assoc, List.append_assoc, List.singleton_append,
      universalLines_append_feed hbody, ih (fun p hp => hps p (List.mem_cons_of_mem _ hp)), List.cons_append,
      List.flatMap_cons, linesOfPiece, hstrip]

/-! ### Reading -/

/-- The bytes that a reader delivers before it fails. -/
def delivered : List ReadEvent → Bytes
  | [] => []
  | .chunk s _ :: es => s ++ delivered es
  | .interruption :: es => delivered es
  | .failure :: _ => []

@[simp] theorem delivered_inOneChunk (content : Bytes) : delivered (inOneChunk content) = content := by
  by_cases h : content = [] <;> simp [inOneChunk, h, delivered]

@[simp] theorem failure_not_mem_inOneChunk (content : Bytes) : .failure ∉ inOneChunk content := by
  by_cases h : content = [] <;> simp [inOneChunk, h]

/-- The bytes of which the lines are read: all that are delivered, or after a failure those up to the last line
feed. -/
def linedContent (events : List ReadEvent) : Bytes :=
  if .failure ∈ events then (cutAtFeeds (delivered events)).1.flatten else delivered events

/-- The pieces that a reader yields are those of the bytes it delivers, wherever the chunks are cut.  Only the last
one is lost in a failure. -/
theorem piecesFrom_eq {held : Bytes} (h : lineFeed ∉ held) (events : List ReadEvent) :
    piecesFrom held events =
      (cutAtFeeds (held ++ delivered events)).1 ++
        if .failure ∈ events then [] else lastPiece (cutAtFeeds (held ++ delivered events)).2 := by
  induction events generalizing held with
  | nil =>
    rw [delivered, cutAtFeeds_append_of_not_mem h]
    simp [piecesFrom, cutAtFeeds, resume, lastPiece]
  | cons e events ih =>
    cases e with
    | chunk s _ =>
      have hcut : resume held (cutAtFeeds s) = cutAtFeeds (held ++ s) := (cutAtFeeds_append_of_not_mem h s).symm
      have hrest : lineFeed ∉ (cutAtFeeds (held ++ s)).2 := not_mem_cutAtFeeds_snd _
      rw [piecesFrom, hcut, ih hrest, delivered, ← List.append_assoc held, cutAtFeeds_append (held ++ s)]
      simp
    | interruption =>
      rw [piecesFrom, ih h, delivered]
      simp
    | failure =>
      rw [piecesFrom, delivered, cutAtFeeds_append_of_not_mem h]
      simp [cutAtFeeds, resume]

/-- The lines that a reader yields are the lines of its content in one pass. -/
theorem linesRead_eq (events : List ReadEvent) : linesRead events = universalLines (linedContent events) := by
  have hpieces := fun p hp => exists_of_mem_cutAtFeeds (s := delivered events) (p := p) hp
  rw [linesRead, piecesFrom_eq List.not_mem_nil, List.nil_append, linedContent]
  split
  · rw [← List.append_nil (cutAtFeeds (delivered events)).1.flatten,
      universalLines_flatten [] hpieces List.not_mem_nil]
    rfl
  · conv => rhs; rw [← cutAtFeeds_flatten (delivered events)]
    rw [universalLines_flatten _ hpieces (not_mem_cutAtFeeds_snd _)]

private theorem mem_of_mem_linesFrom {afterReturn : Bool} {s line : Bytes} {b : UInt8} (h : line ∈ linesFrom afterReturn s)
    (hb : b ∈ line) : b ∈ s := by
  induction s generalizing afterReturn line with
  | nil => cases h
  | cons c s ih =>
    rw [linesFrom] at h
    split at h
    · split at h
      · exact List.mem_cons_of_mem c (ih h hb)
      · rcases List.mem_cons.1 h with rfl | h
        · cases hb
        · exact List.mem_cons_of_mem c (ih h hb)
    split at h
    · rcases List.mem_cons.1 h with rfl | h
      · cases hb
      · exact List.mem_cons_of_mem c (ih h hb)
    · cases hrest : linesFrom false s with
      | nil =>
        rw [hrest] at h
        obtain rfl := List.mem_singleton.1 h
        exact List.mem_cons.2 (.inl (List.mem_singleton.1 hb))
      | cons first rest =>
        rw [hrest] at h
        rcases List.mem_cons.1 h with rfl | h
        · rcases List.mem_cons.1 hb with rfl | hb
          · exact List.mem_cons_self
          · exact List.mem_cons_of_mem c (ih (hrest ▸ List.mem_cons_self) hb)
        · exact List.mem_cons_of_mem c (ih (hrest ▸ List.mem_cons_of_mem first h) hb)

/-- The lines that a reader yields hold no other bytes than those it delivers. -/
theorem mem_of_mem_linesRead {events : List ReadEvent} {line : Bytes} {b : UInt8} (h : line ∈ linesRead events)
    (hb : b ∈ line) : b ∈ delivered events := by
  have hstart : linedContent events <+: delivered events := by
    rw [linedContent]
    split
    · exact ⟨_, cutAtFeeds_flatten (delivered events)⟩
    · exact List.prefix_refl _
  rw [linesRead_eq] at h
  exact hstart.subset (mem_of_mem_linesFrom h hb)

/-- A failure comes in a piece that holds a whole line, ended by a carriage return: that line is not read. -/
example :
    linesRead [.chunk (bytes "x\n(x)\r"), .interruption, .chunk (bytes "\nx"), .chunk (bytes "\r(x)"), .failure] =
      [bytes "x", bytes "(x)"] := by decide

/-! ### The part up to the last line feed -/

/-- The longest start of a content that is empty or ends with a line feed. -/
structure LastFeedStart (content start : Bytes) : Prop where
  starts : start <+: content
  ends_line : start = [] ∨ start.getLast? = some lineFeed
  longest : ∀ other, other <+: content → other.getLast? = some lineFeed → other.length ≤ start.length

/-- The pieces that end with a line feed are all that comes before the last one, and that one. -/
theorem lastFeedStart_cutAtFeeds (content : Bytes) : LastFeedStart content (cutAtFeeds content).1.flatten := by
  have hcut := cutAtFeeds_flatten content
  refine ⟨⟨_, hcut⟩, ?_, ?_⟩
  · rcases List.eq_nil_or_concat (cutAtFeeds content).1 with h | ⟨pieces, p, h⟩
    · left
      rw [h, List.flatten_nil]
    · right
      obtain ⟨body, rfl, -⟩ := exists_of_mem_cutAtFeeds (s := content) (p := p) (by simp [h])
      simp [h]
  · intro other hother hfeed
    apply Nat.le_of_not_lt
    intro hlt
    -- a longer start ends with a line feed in the part that has none
    obtain ⟨more, rfl⟩ := List.prefix_of_prefix_length_le ⟨_, hcut⟩ hother (Nat.le_of_lt hlt)
    have hne : more ≠ [] := by
      rintro rfl
      simp at hlt
    have hmore : more <+: (cutAtFeeds content).2 := by
      rw [← List.prefix_append_right_inj (cutAtFeeds content).1.flatten, hcut]
      exact hother
    rw [List.getLast?_append, List.getLast?_eq_some_getLast hne, Option.some_or,
      ← List.getLast?_eq_some_getLast hne] at hfeed
    exact not_mem_cutAtFeeds_snd content (hmore.subset (List.mem_of_getLast? hfeed))

/-- A content can be cut into lines up to its last line feed and then after it. -/
theorem universalLines_cutAtFeeds (content : Bytes) :
    universalLines content =
      universalLines (cutAtFeeds content).1.flatten ++ universalLines (cutAtFeeds content).2 := by
  have hpieces := fun p hp => exists_of_mem_cutAtFeeds (s := content) (p := p) hp
  have hrest := not_mem_cutAtFeeds_snd content
  have hfirst := universalLines_flatten [] hpieces List.not_mem_nil
  have hsecond : universalLines (([] : List Bytes).flatten ++ (cutAtFeeds content).2) = _ :=
    universalLines_flatten _ (fun p hp => absurd hp List.not_mem_nil) hrest
  have hboth := universalLines_flatten _ hpieces hrest
  rw [List.append_nil] at hfirst
  rw [List.flatten_nil, List.nil_append] at hsecond
  rw [cutAtFeeds_flatten] at hboth
  rw [hboth, hfirst, hsecond]
  simp [lastPiece]

/-- Two carriage returns and a line feed end two lines, and a carriage return may end the content. -/
example : universalLines (bytes "a\r\r\nb\r") = [bytes "a", [], bytes "b"] := by decide

end KeywordFinder
