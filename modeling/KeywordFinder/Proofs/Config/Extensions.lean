import KeywordFinder.Config.Settings
import KeywordFinder.Proofs.Walk.Files
import Mathlib.Data.List.Destutter
import Mathlib.Data.List.TakeWhile

/-!
# Which extensions a walk wants

What is left of an extension as it is written is said by how the written text splits (`LeavesExtension`): blanks around
it go, and then the dots in front.  A path is wanted if its last component has one of the extensions that are left
(`Config.isWanted_iff_extension_left`), and of no extension but `py` if nothing is left of any.

Blanks go before dots, and only once.  Extensions are in a normal form after that unless a written one has a blank
right behind its dots, and only then would another pass change them (`normalizeExtensions_normal_iff`).
-/

namespace KeywordFinder

/-! ### Taking off the ends of a text -/

private theorem dropWhile_eq_iff {p : Char → Bool} {s t : Text} :
    s.dropWhile p = t ↔ ∃ front, s = front ++ t ∧ (∀ c ∈ front, p c = true) ∧ ∀ c ∈ t.head?, p c = false := by
  constructor
  · rintro rfl
    refine ⟨s.takeWhile p, List.takeWhile_append_dropWhile.symm, fun c hc => List.mem_takeWhile_imp hc, ?_⟩
    intro c hc
    have hhead := List.head?_dropWhile_not p s
    rw [hc] at hhead
    simpa using hhead
  · rintro ⟨front, rfl, hfront, hhead⟩
    rw [List.dropWhile_append_of_pos hfront]
    cases t with
    | nil => rfl
    | cons c t => rw [List.dropWhile_cons_of_neg (by simpa using hhead c rfl)]

/-- A text without a blank at either end. -/
structure Unpadded (t : Text) : Prop where
  front : ∀ c ∈ t.head?, isBlank c = false
  back : ∀ c ∈ t.getLast?, isBlank c = false

private theorem trimEnd_eq_iff {s t : Text} :
    trimEnd s = t ↔ ∃ back, s = t ++ back ∧ (∀ c ∈ back, isBlank c = true) ∧ ∀ c ∈ t.getLast?, isBlank c = false := by
  rw [trimEnd, List.reverse_eq_iff, trimStart, dropWhile_eq_iff]
  constructor
  · rintro ⟨back, hs, hback, hlast⟩
    refine ⟨back.reverse, ?_, by simpa using hback, by simpa using hlast⟩
    rw [← List.reverse_reverse s, hs, List.reverse_append, List.reverse_reverse]
  · rintro ⟨back, rfl, hback, hlast⟩
    exact ⟨back.reverse, List.reverse_append, by simpa using hback, by simpa using hlast⟩

theorem trim_eq_iff {s t : Text} : trim s = t ↔ ∃ front back, s = front ++ t ++ back ∧
    (∀ c ∈ front, isBlank c = true) ∧ (∀ c ∈ back, isBlank c = true) ∧ Unpadded t := by
  rw [trim, trimEnd_eq_iff]
  constructor
  · rintro ⟨back, hs, hback, hlast⟩
    obtain ⟨front, hfront, hblank, hhead⟩ := dropWhile_eq_iff.1 hs
    refine ⟨front, back, by rw [hfront, List.append_assoc], hblank, hback, fun c hc => ?_, hlast⟩
    exact hhead c (by rw [List.head?_append, hc]; rfl)
  · rintro ⟨front, back, rfl, hfront, hback, ht⟩
    rw [List.append_assoc, trimStart, List.dropWhile_append_of_pos hfront]
    cases t with
    | nil => exact ⟨[], by simpa [List.dropWhile_eq_nil_iff] using hback, by simp, by simp⟩
    | cons c t =>
      have hc : isBlank c = false := ht.front c rfl
      exact ⟨back, by simp [hc], hback, ht.back⟩

/-! ### What is left of a written extension -/

/-- Whether an extension is what a written one leaves: between the blanks around it stand dots and then the extension,
which starts with none. -/
def LeavesExtension (written e : Text) : Prop :=
  ∃ front dots back, written = front ++ (dots ++ e) ++ back ∧ (∀ c ∈ front, isBlank c = true) ∧
    (∀ c ∈ back, isBlank c = true) ∧ Unpadded (dots ++ e) ∧ (∀ c ∈ dots, c = '.') ∧ e.head? ≠ some '.'

private theorem head?_ne_dot_iff {e : Text} : e.head? ≠ some '.' ↔ ∀ c ∈ e.head?, decide (c = '.') = false := by
  cases e <;> simp

theorem normalizeExtension_eq_iff {written e : Text} :
    normalizeExtension written = e ↔ LeavesExtension written e := by
  rw [normalizeExtension, dropWhile_eq_iff]
  constructor
  · rintro ⟨dots, htrim, hdots, hhead⟩
    obtain ⟨front, back, hwritten, hfront, hback, hends⟩ := trim_eq_iff.1 htrim
    exact ⟨front, dots, back, hwritten, hfront, hback, hends, by simpa using hdots, head?_ne_dot_iff.2 hhead⟩
  · rintro ⟨front, dots, back, hwritten, hfront, hback, hends, hdots, hhead⟩
    exact ⟨dots, trim_eq_iff.2 ⟨front, back, hwritten, hfront, hback, hends⟩, by simpa using hdots,
      head?_ne_dot_iff.1 hhead⟩

/-- The extensions that written ones stand for: what is left of them, or the default one if nothing is left of any. -/
def StandsFor (written : List Text) (e : Text) : Prop :=
  (e ≠ [] ∧ ∃ w ∈ written, LeavesExtension w e) ∨ (e = "py".toList ∧ ∀ w ∈ written, LeavesExtension w [])

/-- The order of written extensions and repetitions of them have no part in what they stand for. -/
private theorem standsFor_congr {written written' : List Text} {e : Text} (h : ∀ w, w ∈ written ↔ w ∈ written') :
    StandsFor written e ↔ StandsFor written' e := by
  simp only [StandsFor, h]

/-- The extensions that are left of written ones, in their order. -/
private def leftExtensions (written : List Text) : List Text :=
  (written.map normalizeExtension).filter (!·.isEmpty)

private theorem mem_leftExtensions {written : List Text} {e : Text} :
    e ∈ leftExtensions written ↔ e ≠ [] ∧ ∃ w ∈ written, LeavesExtension w e := by
  simp only [leftExtensions, List.mem_filter, List.mem_map, normalizeExtension_eq_iff, Bool.not_eq_true',
    List.isEmpty_eq_false_iff]
  exact and_comm

private theorem leftExtensions_eq_nil_iff {written : List Text} :
    leftExtensions written = [] ↔ ∀ w ∈ written, LeavesExtension w [] := by
  simp [leftExtensions, List.filter_eq_nil_iff, ← normalizeExtension_eq_iff]

theorem dropRepeats_eq_destutter {α : Type} [DecidableEq α] (l : List α) : dropRepeats l = l.destutter (· ≠ ·) := by
  fun_induction dropRepeats l with
  | case1 => rfl
  | case2 a => rfl
  | case3 a l ih => rw [List.destutter_cons_cons, if_neg (by simp), ih, List.destutter_cons']
  | case4 a b l hne ih => rw [List.destutter_cons_cons, if_pos hne, ih, List.destutter_cons']

theorem mem_dropRepeats {α : Type} [DecidableEq α] {l : List α} {a : α} : a ∈ dropRepeats l ↔ a ∈ l := by
  fun_induction dropRepeats l with
  | case1 | case2 => rfl
  | case3 b l ih => simp [ih]
  | case4 b c l hne ih => rw [List.mem_cons, ih, ← List.mem_cons]

/-- The extensions of a walk are those left of the written ones without repetitions, or the default one. -/
private theorem normalizeExtensions_eq (written : List Text) : normalizeExtensions written =
    if leftExtensions written = [] then [defaultExtension] else (leftExtensions written).destutter (· ≠ ·) := by
  rw [normalizeExtensions, ← leftExtensions, dropRepeats_eq_destutter]
  split
  · next hnil => rw [if_pos ((List.destutter_eq_nil _).1 hnil)]
  · next hne => rw [if_neg fun hnil => hne (by rw [hnil, List.destutter_nil])]

theorem mem_normalizeExtensions {written : List Text} {e : Text} :
    e ∈ normalizeExtensions written ↔ StandsFor written e := by
  rw [normalizeExtensions_eq, ← dropRepeats_eq_destutter, StandsFor, ← mem_leftExtensions,
    ← leftExtensions_eq_nil_iff]
  split
  · next hnil => simp [hnil, defaultExtension]
  · next hne => simp [hne, mem_dropRepeats]

/-! ### Wanted paths -/

private theorem walkOptions_extensions (c : Config) (extensions excludes : List Text) :
    (c.walkOptions extensions excludes).extensions =
      normalizeExtensions (if extensions = [] then c.search.extensions else extensions) := by
  cases extensions <;> rfl

private theorem StandsFor.encode_ne_nil {written : List Text} {e : Text} (h : StandsFor written e) : encode e ≠ [] := by
  intro hnil
  obtain rfl : [] = e := Option.some.inj (decode?_eq_some_iff.2 hnil)
  rcases h with ⟨hne, -⟩ | ⟨hdefault, -⟩
  · exact hne rfl
  · cases hdefault

private theorem isWanted_walkOptions_iff {c : Config} {extensions excludes : List Text} {p : Path} :
    (c.walkOptions extensions excludes).isWanted p = true ↔
      ∃ stem ext, p.lastComponent? = some (stem ++ dot :: ext) ∧ stem ≠ [] ∧ dot ∉ ext ∧
        ∃ e, ext = encode e ∧ StandsFor (if extensions = [] then c.search.extensions else extensions) e := by
  rw [WalkOptions.isWanted_iff, WalkOptions.Wants, walkOptions_extensions]
  simp only [mem_normalizeExtensions, Path.extension?_eq_some_iff]
  constructor
  · rintro ⟨e, he, stem, hlast, hstem, hdot, -⟩
    exact ⟨stem, encode e, hlast, hstem, hdot, e, rfl, he⟩
  · rintro ⟨stem, ext, hlast, hstem, hdot, e, rfl, he⟩
    refine ⟨e, he, stem, hlast, hstem, hdot, fun hup => ?_⟩
    -- in a component that leads upwards, nothing is left behind the second dot
    obtain ⟨a, stem, rfl⟩ := List.exists_cons_of_ne_nil hstem
    cases stem with
    | nil => exact he.encode_ne_nil (List.cons.inj (List.cons.inj hup).2).2
    | cons b stem => simp at hup

/-- A path is wanted exactly if its last component has an extension, behind its last dot and not all of the component,
that is the encoding of what a chosen extension leaves, or of `py` if none leaves anything.  Chosen are the extensions
of the command line, or those of the configuration if it gives none.  So only the set of chosen extensions counts, and a
path whose last component ends with a dot is never wanted. -/
theorem Config.isWanted_iff_extension_left (c : Config) (extensions excludes : List Text) :
    let chosen (c : Config) (extensions : List Text) : List Text :=
      if extensions = [] then c.search.extensions else extensions
    (∀ p : Path, (c.walkOptions extensions excludes).isWanted p = true ↔
      ∃ stem ext, p.lastComponent? = some (stem ++ dot :: ext) ∧ stem ≠ [] ∧ dot ∉ ext ∧
        ∃ e, ext = encode e ∧ StandsFor (chosen c extensions) e) ∧
      (∀ (c' : Config) (extensions' excludes' : List Text),
        (∀ w, w ∈ chosen c extensions ↔ w ∈ chosen c' extensions') → ∀ p : Path,
          (c.walkOptions extensions excludes).isWanted p = (c'.walkOptions extensions' excludes').isWanted p) ∧
      ∀ (p : Path) (stem : Bytes), p.lastComponent? = some (stem ++ [dot]) →
        (c.walkOptions extensions excludes).isWanted p = false := by
  intro chosen
  refine ⟨fun p => isWanted_walkOptions_iff, ?_, ?_⟩
  · intro c' extensions' excludes' hsame p
    have hstands : ∀ e, StandsFor (if extensions = [] then c.search.extensions else extensions) e ↔
        StandsFor (if extensions' = [] then c'.search.extensions else extensions') e := fun e => standsFor_congr hsame
    rw [Bool.eq_iff_iff, isWanted_walkOptions_iff, isWanted_walkOptions_iff]
    simp only [hstands]
  · intro p stem hlast
    rw [Bool.eq_false_iff, ne_eq, isWanted_walkOptions_iff]
    rintro ⟨stem', ext, hlast', -, hdot, e, rfl, he⟩
    rw [hlast, Option.some.injEq] at hlast'
    -- the component ends with a dot, so nothing stands behind the last one
    have hend : (dot :: encode e).getLast? = some dot := by
      rw [← List.getLast?_append_of_ne_nil stem' (List.cons_ne_nil _ _), ← hlast', List.getLast?_concat]
    obtain ⟨a, ext, hext⟩ := List.exists_cons_of_ne_nil he.encode_ne_nil
    rw [hext, List.getLast?_cons_cons, ← hext] at hend
    exact hdot (List.mem_of_getLast? hend)

/-! ### The normal form -/

/-- Whether an extension starts with a blank. -/
def StartsBlank (e : Text) : Prop := ∃ c ∈ e.head?, isBlank c = true

/-- Whether a written extension has a blank right behind its dots and more than blanks behind that. -/
def HidesBlank (written : Text) : Prop :=
  ∃ front dots c rest, written = front ++ dots ++ c :: rest ∧ (∀ d ∈ front, isBlank d = true) ∧ dots ≠ [] ∧
    (∀ d ∈ dots, d = '.') ∧ isBlank c = true ∧ ∃ d ∈ rest, isBlank d = false

private theorem isBlank_dot : isBlank '.' = false := by decide

/-- The extension that is left starts with a blank exactly if a blank stands right behind the dots. -/
theorem exists_startsBlank_iff {written : Text} :
    (∃ e, LeavesExtension written e ∧ StartsBlank e) ↔ HidesBlank written := by
  constructor
  · rintro ⟨e, ⟨front, dots, back, hwritten, hfront, -, hends, hdots, -⟩, c, hc, hblank⟩
    obtain ⟨rest, rfl⟩ := List.head?_eq_some_iff.1 hc
    have hne : dots ≠ [] := by
      rintro rfl
      exact absurd hblank (by simp [hends.front c rfl])
    obtain ⟨d, hd⟩ := Option.isSome_iff_exists.1 (List.getLast?_isSome.2 (List.cons_ne_nil c rest))
    have hlast : isBlank d = false := hends.back d (by rw [List.getLast?_append, hd]; rfl)
    have hmem : d ∈ rest := by
      rcases List.mem_cons.1 (List.mem_of_getLast? hd) with rfl | hmem
      · exact absurd hblank (by simp [hlast])
      · exact hmem
    exact ⟨front, dots, c, rest ++ back, by simp [hwritten], hfront, hne, hdots, hblank, d,
      List.mem_append_left _ hmem, hlast⟩
  · rintro ⟨front, dots, c, rest, hwritten, hfront, hne, hdots, hblank, d, hd, hlast⟩
    obtain ⟨back, hsplit, hback, hend⟩ := trimEnd_eq_iff.1 (rfl : trimEnd (c :: rest) = _)
    have hleft : trimEnd (c :: rest) ≠ [] := by
      intro hnil
      rw [hnil, List.nil_append] at hsplit
      exact absurd (hback d (hsplit ▸ List.mem_cons_of_mem c hd)) (by simp [hlast])
    generalize trimEnd (c :: rest) = e at hsplit hend hleft
    obtain ⟨b, more, rfl⟩ := List.exists_cons_of_ne_nil hleft
    obtain ⟨rfl, -⟩ := List.cons.inj hsplit
    have hends : Unpadded (dots ++ c :: more) := by
      obtain ⟨a, dots, rfl⟩ := List.exists_cons_of_ne_nil hne
      refine ⟨fun d hd => ?_, fun d hd => hend d ?_⟩
      · cases hd
        rw [hdots a List.mem_cons_self, isBlank_dot]
      · rwa [List.getLast?_append_of_ne_nil _ hleft] at hd
    refine ⟨c :: more, ⟨front, dots, back, ?_, hfront, hback, hends, hdots, ?_⟩, c, rfl, hblank⟩
    · rw [hwritten, hsplit]
      simp
    · rintro ⟨⟩
      exact absurd hblank (by simp [isBlank_dot])

/-- An extension without blanks at its ends and dots in front is left as it is. -/
private theorem leavesExtension_self {e : Text} (hdot : e.head? ≠ some '.') (hends : Unpadded e) :
    LeavesExtension e e :=
  ⟨[], [], [], by simp, by simp, by simp, hends, by simp, hdot⟩

/-- Of an extension without dots in front, blanks in front go unless no dots come behind them; then the extension that
is left is shorter. -/
private theorem length_lt_of_leavesExtension {written e : Text} (hdot : written.head? ≠ some '.')
    (h : LeavesExtension written e) (hblank : StartsBlank e) : StartsBlank written ∧ e.length < written.length := by
  obtain ⟨front, dots, back, rfl, hfront, -, hends, hdots, -⟩ := h
  obtain ⟨c, hc, hcblank⟩ := hblank
  obtain ⟨a, dots, rfl⟩ : ∃ a ds, dots = a :: ds := by
    refine List.exists_cons_of_ne_nil ?_
    rintro rfl
    exact absurd hcblank (by simp [hends.front c hc])
  obtain rfl := hdots a List.mem_cons_self
  cases front with
  | nil => exact absurd rfl hdot
  | cons b front =>
    refine ⟨⟨b, rfl, hfront b List.mem_cons_self⟩, ?_⟩
    simp only [List.length_append, List.length_cons]
    omega

variable {written : List Text} {e : Text}

/-- What a walk is given as extensions is not empty, starts with no dot and ends with no blank. -/
private theorem ends_of_standsFor (h : StandsFor written e) :
    e ≠ [] ∧ e.head? ≠ some '.' ∧ ∀ c ∈ e.getLast?, isBlank c = false := by
  rcases h with ⟨hne, w, -, front, dots, back, -, -, -, hends, -, hdot⟩ | ⟨rfl, -⟩
  · exact ⟨hne, hdot, fun c hc => hends.back c (by rw [List.getLast?_append, hc]; rfl)⟩
  · refine ⟨by decide, by decide, fun c hc => ?_⟩
    rw [← Option.some.inj hc]
    decide

private theorem startsBlank_iff : (∃ e ∈ normalizeExtensions written, StartsBlank e) ↔ ∃ w ∈ written, HidesBlank w := by
  simp only [mem_normalizeExtensions, ← exists_startsBlank_iff]
  constructor
  · rintro ⟨e, ⟨-, w, hw, hleaves⟩ | ⟨rfl, -⟩, hblank⟩
    · exact ⟨w, hw, e, hleaves, hblank⟩
    · obtain ⟨c, hc, hblank⟩ := hblank
      cases hc
      exact absurd hblank (by decide)
  · rintro ⟨w, hw, e, hleaves, hblank⟩
    refine ⟨e, .inl ⟨?_, w, hw, hleaves⟩, hblank⟩
    rintro rfl
    obtain ⟨c, hc, -⟩ := hblank
    cases hc

/-- Extensions of which none starts with a blank are in a normal form. -/
private theorem normalizeExtensions_self (h : ∀ e ∈ normalizeExtensions written, ¬ StartsBlank e) :
    normalizeExtensions (normalizeExtensions written) = normalizeExtensions written := by
  have hself : ∀ e ∈ normalizeExtensions written, normalizeExtension e = e ∧ e ≠ [] := by
    intro e he
    obtain ⟨hne, hdot, hback⟩ := ends_of_standsFor (mem_normalizeExtensions.1 he)
    refine ⟨normalizeExtension_eq_iff.2 (leavesExtension_self hdot ⟨fun c hc => ?_, hback⟩), hne⟩
    exact Bool.eq_false_iff.2 fun hblank => h e he ⟨c, hc, hblank⟩
  have hleft : leftExtensions (normalizeExtensions written) = normalizeExtensions written := by
    have hmap : (normalizeExtensions written).map normalizeExtension = normalizeExtensions written :=
      (List.map_congr_left fun e he => (hself e he).1).trans (List.map_id' _)
    rw [leftExtensions, hmap, List.filter_eq_self]
    intro e he
    simpa using (hself e he).2
  have hchain : (normalizeExtensions written).IsChain (· ≠ ·) ∧ normalizeExtensions written ≠ [] := by
    rw [normalizeExtensions_eq]
    split
    · exact ⟨List.isChain_singleton _, List.cons_ne_nil _ _⟩
    · next hne => exact ⟨List.isChain_destutter _ _, fun hnil => hne ((List.destutter_eq_nil _).1 hnil)⟩
  rw [normalizeExtensions_eq (normalizeExtensions written), hleft, if_neg hchain.2,
    List.destutter_of_isChain _ _ hchain.1]

/-- If another pass changes nothing, no extension starts with a blank: it would be left of a longer one in the list that
starts with a blank too. -/
private theorem not_startsBlank_of_fixed
    (h : normalizeExtensions (normalizeExtensions written) = normalizeExtensions written) :
    ∀ e ∈ normalizeExtensions written, ¬ StartsBlank e := by
  have hlonger : ∀ e ∈ normalizeExtensions written, StartsBlank e →
      ∃ e' ∈ normalizeExtensions written, StartsBlank e' ∧ e.length < e'.length := by
    intro e he hblank
    rcases mem_normalizeExtensions.1 (h.symm ▸ he) with ⟨-, e', he', hleaves⟩ | ⟨rfl, -⟩
    · have hdot := (ends_of_standsFor (mem_normalizeExtensions.1 he')).2.1
      exact ⟨e', he', length_lt_of_leavesExtension hdot hleaves hblank⟩
    · obtain ⟨c, hc, hblank⟩ := hblank
      cases hc
      exact absurd hblank (by decide)
  intro e he hblank
  have hlong : ∀ n, ∃ e' ∈ normalizeExtensions written, StartsBlank e' ∧ n ≤ e'.length := by
    intro n
    induction n with
    | zero => exact ⟨e, he, hblank, Nat.zero_le _⟩
    | succ n ih =>
      obtain ⟨e', he', hblank', hle⟩ := ih
      obtain ⟨e'', he'', hblank'', hlt⟩ := hlonger e' he' hblank'
      exact ⟨e'', he'', hblank'', by omega⟩
  obtain ⟨e', he', -, hle⟩ := hlong ((normalizeExtensions written).flatten.length + 1)
  have hbound := (List.sublist_flatten_of_mem he').length_le
  omega

/-- The extensions of a walk are never empty, start with no dot and end with no blank, and there is at least one.  They
also start with no blank, and another pass leaves them as they are, unless a written extension has a blank right behind
its dots: dots go after blanks, and what then comes first stays. -/
theorem normalizeExtensions_normal_iff (written : List Text) :
    normalizeExtensions written ≠ [] ∧
      (∀ e ∈ normalizeExtensions written, e ≠ [] ∧ e.head? ≠ some '.' ∧ ∀ c ∈ e.getLast?, isBlank c = false) ∧
      ((∀ e ∈ normalizeExtensions written, ∀ c ∈ e.head?, isBlank c = false) ↔ ∀ w ∈ written, ¬ HidesBlank w) ∧
      (normalizeExtensions (normalizeExtensions written) = normalizeExtensions written ↔
        ∀ w ∈ written, ¬ HidesBlank w) := by
  have hhides : (∀ e ∈ normalizeExtensions written, ¬ StartsBlank e) ↔ ∀ w ∈ written, ¬ HidesBlank w := by
    simpa only [not_exists, not_and] using not_congr (@startsBlank_iff written)
  refine ⟨?_, fun e he => ends_of_standsFor (mem_normalizeExtensions.1 he), ?_, ?_⟩
  · rw [normalizeExtensions_eq]
    split
    · exact List.cons_ne_nil _ _
    · next hne => exact fun hnil => hne ((List.destutter_eq_nil _).1 hnil)
  · rw [← hhides]
    simp only [StartsBlank, not_exists, not_and, Bool.not_eq_true]
  · rw [← hhides]
    exact ⟨not_startsBlank_of_fixed, normalizeExtensions_self⟩

/-- Written with a blank behind its dot, an extension keeps the blank at first, and another pass takes it off. -/
theorem normalizeExtensions_blank_behind_dot :
    normalizeExtensions [". py".toList] = [" py".toList] ∧
      ¬ (∀ e ∈ normalizeExtensions [". py".toList], ∀ c ∈ e.head?, isBlank c = false) ∧
      normalizeExtensions (normalizeExtensions [". py".toList]) ≠ normalizeExtensions [". py".toList] := by
  have honce : normalizeExtensions [". py".toList] = [" py".toList] := by decide +kernel
  have htwice : normalizeExtensions [" py".toList] = ["py".toList] := by decide +kernel
  rw [honce, htwice]
  exact ⟨rfl, fun h => absurd (h _ List.mem_cons_self ' ' rfl) (by decide), by decide⟩

end KeywordFinder
