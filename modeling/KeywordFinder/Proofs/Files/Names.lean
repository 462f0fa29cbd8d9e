import KeywordFinder.Files.Tree
import Mathlib.Data.List.Induction
import Mathlib.Data.List.TakeWhile

/-!
# Names and paths

What names the entries of a directory have, and the paths that they make up.  A path below a directory is joined name
by name, and this is the path of the directory with the names behind it and slashes between them
(`Path.descend_eq_join`).  Below one directory the path tells the names (`Path.join_relative_injective`).  The name and
the extension of any path are those of its last component (`Path.name?_eq_lastComponent?`,
`Path.extension?_eq_some_iff`).
-/

namespace KeywordFinder

namespace Path

variable {p q : Path} {names more : List Bytes} {name : Bytes}

/-! ### Joining -/

/-- A path that neither starts nor ends with a slash. -/
structure Inner (p : Path) : Prop where
  ne_nil : p ≠ []
  head : p.head? ≠ some slash
  last : p.getLast? ≠ some slash

theorem join_nil (q : Path) : join [] q = q := by simp [join]

theorem join_ne_nil (hp : p ≠ []) (q : Path) : join p q ≠ [] := by
  rw [join]
  split
  · rintro rfl
    simp_all [isAbsolute]
  · split <;> simp [hp]

/-- Behind a directory whose path ends with a slash, no further one is needed. -/
theorem join_of_inner (hq : Inner q) (hp : p ≠ []) :
    join p q = if p.getLast? = some slash then p ++ q else p ++ slash :: q := by
  have hnot : ¬ (isAbsolute q || p.isEmpty) = true := by simpa [isAbsolute, hp] using hq.head
  rw [join, if_neg hnot]

theorem Inner.join_eq (hp : Inner p) (hq : Inner q) : join p q = p ++ slash :: q := by
  rw [join_of_inner hq hp.ne_nil, if_neg hp.last]

/-- The end of a path is the end of what is put behind another one. -/
theorem Inner.getLast?_append (hq : Inner q) (r : Path) : (r ++ q).getLast? = q.getLast? := by
  rw [List.getLast?_append, List.getLast?_eq_some_getLast hq.ne_nil, Option.some_or]

theorem Inner.append_slash (hp : Inner p) (hq : Inner q) : Inner (p ++ slash :: q) where
  ne_nil := by simp
  head := by
    have hhead : (p ++ slash :: q).head? = p.head? := by
      rw [List.head?_append, List.head?_eq_some_head hp.ne_nil, Option.some_or]
    rw [hhead]
    exact hp.head
  last := by
    rw [List.append_cons, hq.getLast?_append]
    exact hq.last

/-- Paths can be joined in any order. -/
theorem join_join (directory : Path) (hp : Inner p) (hq : Inner q) :
    join (join directory p) q = join directory (join p q) := by
  by_cases hd : directory = []
  · rw [hd, join_nil, join_nil]
  · have hlast : ∀ r : Path, join (r ++ p) q = r ++ p ++ slash :: q := by
      intro r
      have hne : r ++ p ≠ [] := by simp [hp.ne_nil]
      rw [join_of_inner hq hne, hp.getLast?_append, if_neg hp.last]
    rw [hp.join_eq hq, join_of_inner (hp.append_slash hq) hd, join_of_inner hp hd]
    split
    · rw [hlast, List.append_assoc]
    · rw [List.append_cons, hlast]
      simp

/-! ### Names below a directory -/

/-- The path that leads from a directory through names. -/
def descend (directory : Path) (names : List Bytes) : Path := names.foldl join directory

/-- The path that names have as it is seen from the directory that they start in. -/
def relative (names : List Bytes) : Path := [slash].intercalate names

theorem descend_concat (directory : Path) (names : List Bytes) (name : Bytes) :
    descend directory (names ++ [name]) = join (descend directory names) name := List.foldl_append

theorem relative_cons (name : Bytes) (h : names ≠ []) : relative (name :: names) = name ++ slash :: relative names := by
  obtain ⟨n, names, rfl⟩ := List.exists_cons_of_ne_nil h
  simp [relative, List.intercalate_cons_cons]

/-- A slash stands between names. -/
theorem relative_append (h : names ≠ []) (h' : more ≠ []) :
    relative (names ++ more) = relative names ++ slash :: relative more := by
  induction names with
  | nil => exact absurd rfl h
  | cons name names ih =>
    by_cases hnames : names = []
    · rw [hnames, List.singleton_append, relative_cons name h']
      simp [relative]
    · rw [List.cons_append, relative_cons name (by simp [hnames]), ih hnames, relative_cons name hnames]
      simp

theorem relative_concat (h : names ≠ []) (name : Bytes) :
    relative (names ++ [name]) = relative names ++ slash :: name := by
  rw [relative_append h (List.cons_ne_nil _ _)]
  simp [relative]

end Path

/-- A name that an entry of a directory can have. -/
structure ProperName (name : Bytes) : Prop where
  ne_nil : name ≠ []
  no_slash : slash ∉ name
  ne_here : name ≠ [dot]
  ne_up : name ≠ [dot, dot]
  fits : name.length ≤ FileSystem.maxNameLength

instance (name : Bytes) : Decidable (ProperName name) :=
  decidable_of_iff (name ≠ [] ∧ slash ∉ name ∧ name ≠ [dot] ∧ name ≠ [dot, dot] ∧
      name.length ≤ FileSystem.maxNameLength)
    ⟨fun ⟨h₁, h₂, h₃, h₄, h₅⟩ => ⟨h₁, h₂, h₃, h₄, h₅⟩, fun ⟨h₁, h₂, h₃, h₄, h₅⟩ => ⟨h₁, h₂, h₃, h₄, h₅⟩⟩

theorem ProperName.inner {name : Bytes} (h : ProperName name) : Path.Inner name where
  ne_nil := h.ne_nil
  head := fun hhead => h.no_slash (List.mem_of_mem_head? hhead)
  last := fun hlast => h.no_slash (List.mem_of_getLast? hlast)

namespace Path

variable {names more : List Bytes} {name : Bytes}

theorem inner_relative (hne : names ≠ []) (h : ∀ n ∈ names, ProperName n) : Inner (relative names) := by
  induction names using List.reverseRecOn with
  | nil => exact absurd rfl hne
  | append_singleton names name ih =>
    have hname : ProperName name := h name (by simp)
    by_cases hnames : names = []
    · rw [hnames]
      simpa [relative] using hname.inner
    · rw [relative_concat hnames]
      exact (ih hnames fun n hn => h n (List.mem_append_left _ hn)).append_slash hname.inner

/-- Descending from a directory puts the names behind its path. -/
theorem descend_eq_join (directory : Path) (hne : names ≠ []) (h : ∀ n ∈ names, ProperName n) :
    descend directory names = join directory (relative names) := by
  induction names using List.reverseRecOn with
  | nil => exact absurd rfl hne
  | append_singleton names name ih =>
    have hname : ProperName name := h name (by simp)
    have hbefore : ∀ n ∈ names, ProperName n := fun n hn => h n (List.mem_append_left _ hn)
    by_cases hnames : names = []
    · rw [hnames]
      simp [descend, relative]
    · have hinner := inner_relative hnames hbefore
      rw [descend_concat, ih hnames hbefore, join_join directory hinner hname.inner, hinner.join_eq hname.inner,
        relative_concat hnames]

/-- Descending from no directory gives the path of the names alone. -/
theorem descend_nil (h : ∀ n ∈ names, ProperName n) : descend [] names = relative names := by
  by_cases hne : names = []
  · rw [hne]
    rfl
  · rw [descend_eq_join [] hne h, join_nil]

theorem components_ne_nil (p : Path) : components p ≠ [] := by
  cases p with
  | nil => simp [components]
  | cons b p =>
    rw [components]
    split
    · exact List.cons_ne_nil _ _
    · split <;> exact List.cons_ne_nil _ _

/-- A slash stands between components. -/
theorem components_append_slash (p q : Path) : components (p ++ slash :: q) = components p ++ components q := by
  induction p with
  | nil => simp [components]
  | cons b p ih =>
    rw [List.cons_append, components, components, ih]
    split
    · rfl
    · obtain ⟨c, cs, hcs⟩ := List.exists_cons_of_ne_nil (components_ne_nil p)
      rw [hcs]
      rfl

theorem components_of_not_mem {name : Bytes} (h : slash ∉ name) : components name = [name] := by
  induction name with
  | nil => rfl
  | cons b name ih =>
    obtain ⟨hb, hname⟩ := List.ne_and_not_mem_of_not_mem_cons h
    rw [components, if_neg (Ne.symm hb), ih hname]

/-- The components of a path of names are these names. -/
theorem components_relative (hne : names ≠ []) (h : ∀ n ∈ names, ProperName n) :
    components (relative names) = names := by
  induction names with
  | nil => exact absurd rfl hne
  | cons name names ih =>
    have hname : slash ∉ name := (h name List.mem_cons_self).no_slash
    cases names with
    | nil => simpa [relative] using components_of_not_mem hname
    | cons name' names =>
      rw [relative_cons name (List.cons_ne_nil _ _), components_append_slash, components_of_not_mem hname,
        ih (List.cons_ne_nil _ _) fun n hn => h n (List.mem_cons_of_mem _ hn)]
      rfl

theorem components_of_name (h : ProperName name) : components name = [name] := components_of_not_mem h.no_slash

private theorem join_injective (directory : Path) {p q : Path} (hp : Inner p) (hq : Inner q)
    (h : join directory p = join directory q) : p = q := by
  by_cases hd : directory = []
  · rwa [hd, join_nil, join_nil] at h
  · rw [join_of_inner hp hd, join_of_inner hq hd] at h
    split at h
    · exact List.append_cancel_left h
    · exact (List.cons.inj (List.append_cancel_left h)).2

/-- Below one directory, different names have different paths. -/
theorem join_relative_injective (directory : Path) (hne : names ≠ []) (hne' : more ≠ [])
    (h : ∀ n ∈ names, ProperName n) (h' : ∀ n ∈ more, ProperName n)
    (hpath : join directory (relative names) = join directory (relative more)) : names = more := by
  have hrelative := join_injective directory (inner_relative hne h) (inner_relative hne' h') hpath
  rw [← components_relative hne h, hrelative, components_relative hne' h']

/-- Joining puts components behind each other.  An empty one that a slash at the end leaves is passed over. -/
theorem exists_components_join {p : Path} (hp : p ≠ []) : ∃ cs,
    (components p = cs ∨ components p = cs ++ [[]]) ∧ ∀ q, Inner q → components (join p q) = cs ++ components q := by
  by_cases hlast : p.getLast? = some slash
  · obtain ⟨front, rfl⟩ := List.getLast?_eq_some_iff.1 hlast
    refine ⟨components front, .inr (components_append_slash front []), fun q hq => ?_⟩
    rw [join_of_inner hq hp, if_pos hlast, List.append_assoc, List.singleton_append, components_append_slash]
  · refine ⟨components p, .inl rfl, fun q hq => ?_⟩
    rw [join_of_inner hq hp, if_neg hlast, components_append_slash]

/-- A path below another one starts where that one starts. -/
theorem isAbsolute_join {p q : Path} (hp : p ≠ []) (hq : Inner q) : isAbsolute (join p q) = isAbsolute p := by
  obtain ⟨b, p, rfl⟩ := List.exists_cons_of_ne_nil hp
  rw [join_of_inner hq hp]
  split <;> rfl

/-! ### The last name of a path -/

/-- The last component of a path that is more than a mark of the current directory. -/
def lastComponent? (p : Path) : Option Bytes :=
  ((components p).filter fun c => c ≠ [] ∧ c ≠ [dot]).getLast?

private theorem lastComponent?_append_slash (p : Path) : lastComponent? (p ++ [slash]) = lastComponent? p := by
  have hcomponents : components (p ++ [slash]) = components p ++ [[]] := components_append_slash p []
  simp [lastComponent?, hcomponents]

private theorem lastComponent?_append_slash_dot (p : Path) : lastComponent? (p ++ [slash, dot]) = lastComponent? p := by
  have hcomponents : components (p ++ [slash, dot]) = components p ++ [[dot]] := components_append_slash p [dot]
  simp [lastComponent?, hcomponents]

/-- Behind a slash, or alone, stands the last component. -/
private theorem lastComponent?_append {p c : Bytes} (hc : slash ∉ c) (hne : c ≠ []) (hdot : c ≠ [dot])
    (hp : p = [] ∨ p.getLast? = some slash) : lastComponent? (p ++ c) = some c := by
  have hcomponents : ∃ cs, components (p ++ c) = cs ++ [c] := by
    rcases hp with rfl | hlast
    · exact ⟨[], components_of_not_mem hc⟩
    · obtain ⟨front, rfl⟩ := List.getLast?_eq_some_iff.1 hlast
      refine ⟨components front, ?_⟩
      rw [List.append_assoc, List.singleton_append, components_append_slash, components_of_not_mem hc]
  obtain ⟨cs, hcs⟩ := hcomponents
  simp [lastComponent?, hcs, hne, hdot]

/-- What stands behind the last slash of a path without slashes and `.` components at its end is its last component. -/
private theorem lastComponent?_reverse (r : Bytes) :
    let name := ((trimReversed r).takeWhile (· ≠ slash)).reverse
    lastComponent? r.reverse = if name = [] ∨ name = [dot] then none else some name := by
  intro name
  fun_induction trimReversed r with
  | case1 => rfl
  | case2 s hs =>
    obtain rfl : s = [] := by simpa using hs
    rfl
  | case3 s hs ih =>
    rw [List.reverse_cons, lastComponent?_append_slash]
    exact ih
  | case4 b s hslash hdot ih =>
    simp only [Bool.and_eq_true, decide_eq_true_eq, beq_iff_eq] at hdot
    obtain ⟨rfl, hs⟩ := hdot
    obtain ⟨t, rfl⟩ := List.head?_eq_some_iff.1 hs
    have hsplit : (dot :: slash :: t).reverse = t.reverse ++ [slash, dot] := by simp
    rw [hsplit, lastComponent?_append_slash_dot, ← lastComponent?_append_slash, ← List.reverse_cons]
    exact ih
  | case5 b s hslash hdot =>
    have hsplit : (b :: s).reverse = ((b :: s).dropWhile (· ≠ slash)).reverse ++ name := by
      rw [← List.reverse_append, List.takeWhile_append_dropWhile]
    have hfront : ((b :: s).dropWhile (· ≠ slash)).reverse = [] ∨
        ((b :: s).dropWhile (· ≠ slash)).reverse.getLast? = some slash := by
      rw [List.reverse_eq_nil_iff, List.getLast?_reverse]
      cases hdrop : (b :: s).dropWhile (· ≠ slash) with
      | nil => exact .inl rfl
      | cons a t =>
        have hhead := List.head?_dropWhile_not (· ≠ slash) (b :: s)
        rw [hdrop] at hhead
        exact .inr (by simpa using hhead)
    have hname : slash ∉ name := by
      intro hmem
      simpa using List.mem_takeWhile_imp (List.mem_reverse.1 hmem)
    have hne : name ≠ [] := by simp [name, hslash]
    by_cases hhere : name = [dot]
    · -- a dot alone is the whole path, as no slash stands in front of it
      rw [if_pos (.inr hhere)]
      have htake : (b :: s).takeWhile (· ≠ slash) = [dot] := by
        rw [← List.reverse_reverse ((b :: s).takeWhile _)]
        exact congrArg List.reverse hhere
      rw [List.takeWhile_cons_of_pos (by simpa using hslash)] at htake
      obtain ⟨rfl, hs⟩ := List.cons.inj htake
      cases s with
      | nil => rfl
      | cons a s =>
        have ha : a = slash := by simpa using hs
        exact absurd (by simp [ha]) hdot
    · rw [if_neg (by simp [hne, hhere]), hsplit, lastComponent?_append hname hne hhere hfront]

/-- The name of a path is its last component, unless that leads upwards. -/
theorem name?_eq_lastComponent? (p : Path) : p.name? = p.lastComponent?.filter (· ≠ [dot, dot]) := by
  have hlast := lastComponent?_reverse p.reverse
  rw [List.reverse_reverse] at hlast
  rw [hlast, name?]
  generalize ((trimReversed p.reverse).takeWhile (· ≠ slash)).reverse = name
  by_cases hnone : name = [] ∨ name = [dot]
  · rw [if_pos hnone, if_pos (or_assoc.1 (.inl hnone))]
    rfl
  · rw [not_or] at hnone
    by_cases hup : name = [dot, dot] <;> simp [hnone.1, hnone.2, hup, Option.filter]

/-- Nothing is taken off the end of a path that ends with a name. -/
theorem trimmed_append_name {name : Bytes} (h : ProperName name) (p : Path) : trimmed (p ++ name) = p ++ name := by
  obtain ⟨front, b, rfl⟩ : ∃ front b, name = front ++ [b] := ⟨_, _, (List.dropLast_concat_getLast h.ne_nil).symm⟩
  have hb : b ≠ slash := by
    rintro rfl
    exact h.no_slash (by simp)
  have hkept : ¬ (decide (b = dot) && (front.reverse ++ p.reverse).head? == some slash) = true := by
    cases hfront : front.reverse with
    | nil =>
      have hdot : b ≠ dot := by
        rintro rfl
        exact h.ne_here (by simpa using hfront)
      simp [hdot]
    | cons a rest =>
      have ha : a ≠ slash := by
        rintro rfl
        exact h.no_slash (List.mem_append_left _ (List.mem_reverse.1 (hfront ▸ List.mem_cons_self)))
      simp [ha]
  rw [trimmed, List.reverse_append, List.reverse_append, List.reverse_singleton, List.singleton_append,
    List.cons_append, trimReversed, if_neg hb, if_neg hkept]
  simp

/-- The extension of a name is what follows its last dot, unless that dot comes first. -/
theorem nameExtension?_eq_some_iff {name ext : Bytes} :
    nameExtension? name = some ext ↔ ∃ stem, name = stem ++ dot :: ext ∧ stem ≠ [] ∧ dot ∉ ext := by
  rw [nameExtension?]
  constructor
  · intro h
    split at h
    · cases h
    · next hlong =>
      have hsplit := List.takeWhile_append_dropWhile (p := (· ≠ dot)) (l := name.reverse)
      have hhead := List.head?_dropWhile_not (· ≠ dot) name.reverse
      obtain ⟨a, stem, hdrop⟩ : ∃ a stem, name.reverse.dropWhile (· ≠ dot) = a :: stem :=
        List.exists_cons_of_ne_nil fun hnil => hlong (by rw [hnil]; exact Nat.zero_le 1)
      rw [hdrop] at hlong hsplit hhead
      obtain rfl : a = dot := by simpa using hhead
      cases h
      refine ⟨stem.reverse, ?_, ?_, ?_⟩
      · calc name = name.reverse.reverse := name.reverse_reverse.symm
          _ = (name.reverse.takeWhile (· ≠ dot) ++ dot :: stem).reverse := congrArg List.reverse hsplit.symm
          _ = _ := by simp
      · rw [ne_eq, List.reverse_eq_nil_iff]
        rintro rfl
        simp at hlong
      · intro hmem
        simpa using List.mem_takeWhile_imp (List.mem_reverse.1 hmem)
  · rintro ⟨stem, rfl, hstem, hdot⟩
    have hall : ∀ b ∈ ext.reverse, (b ≠ dot : Bool) = true := fun b hb =>
      decide_eq_true fun heq => hdot (heq ▸ List.mem_reverse.1 hb)
    have hreverse : (stem ++ dot :: ext).reverse = ext.reverse ++ dot :: stem.reverse := by simp
    rw [hreverse, List.dropWhile_append_of_pos hall, List.takeWhile_append_of_pos hall]
    have hlong : ¬ stem.length = 0 := by simpa using hstem
    simp [hlong]

/-- The extension of a path is what follows the last dot of its last component, unless that dot comes first or the
component leads upwards. -/
theorem extension?_eq_some_iff {p : Path} {ext : Bytes} : p.extension? = some ext ↔
    ∃ stem, p.lastComponent? = some (stem ++ dot :: ext) ∧ stem ≠ [] ∧ dot ∉ ext ∧ stem ++ dot :: ext ≠ [dot, dot] := by
  rw [extension?, Option.bind_eq_some_iff, name?_eq_lastComponent?]
  simp only [Option.filter_eq_some_iff, nameExtension?_eq_some_iff]
  constructor
  · rintro ⟨name, ⟨hlast, hup⟩, stem, rfl, hstem, hdot⟩
    exact ⟨stem, hlast, hstem, hdot, by simpa using hup⟩
  · rintro ⟨stem, hlast, hstem, hdot, hup⟩
    exact ⟨_, ⟨hlast, by simpa using hup⟩, stem, rfl, hstem, hdot⟩

end Path

end KeywordFinder
