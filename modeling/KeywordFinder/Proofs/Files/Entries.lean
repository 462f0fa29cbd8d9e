import KeywordFinder.Proofs.Files.Names

/-!
# Entries of a tree

A well-formed tree has proper names, and no name twice in one directory.  An entry is found by the names that lead to
it through directories alone (`Listing.entryAt?_cons`), and what a path resolves to is a directory or a file, never a
link (`FileSystem.entry?_of_pathExists`).
-/

namespace KeywordFinder

/-! ### Well-formed trees -/

/-- A listing as a disk can hold it. -/
def Listing.WellFormed : Listing → Prop
  | .empty => True
  | .file name _ rest => ProperName name ∧ rest.get? name = none ∧ rest.WellFormed
  | .link name _ rest => ProperName name ∧ rest.get? name = none ∧ rest.WellFormed
  | .dir name children rest =>
    ProperName name ∧ rest.get? name = none ∧ children.WellFormed ∧ rest.WellFormed

instance : (l : Listing) → Decidable l.WellFormed
  | .empty => inferInstanceAs (Decidable True)
  | .file _ _ rest =>
    have := instDecidableWellFormed rest
    inferInstanceAs (Decidable (_ ∧ _ ∧ rest.WellFormed))
  | .link _ _ rest =>
    have := instDecidableWellFormed rest
    inferInstanceAs (Decidable (_ ∧ _ ∧ rest.WellFormed))
  | .dir _ children rest =>
    have := instDecidableWellFormed children
    have := instDecidableWellFormed rest
    inferInstanceAs (Decidable (_ ∧ _ ∧ children.WellFormed ∧ rest.WellFormed))

/-- A well-formed tree that is looked at from one of its directories. -/
structure FileSystem.WellFormed (fs : FileSystem) : Prop where
  root : fs.root.WellFormed
  current : ∃ children, fs.root.entryAt? fs.current = some (.dir children)

/-- An entry as a disk can hold it. -/
def Entry.WellFormed : Entry → Prop
  | .dir children => children.WellFormed
  | _ => True

namespace Listing

variable {l : Listing} {e : Entry} {name : Bytes}

/-- A listing is looked at entry by entry. -/
@[elab_as_elim]
theorem consInduction {motive : Listing → Prop} (empty : motive .empty)
    (cons : ∀ name e rest, (∀ children, e = .dir children → motive children) → motive rest →
      motive (.cons name e rest)) (l : Listing) : motive l := by
  induction l with
  | empty => exact empty
  | file name content rest ih => exact cons name (.file content) rest (fun _ h => nomatch h) ih
  | link name target rest ih => exact cons name (.link target) rest (fun _ h => nomatch h) ih
  | dir name children rest ihc ih =>
    refine cons name (.dir children) rest ?_ ih
    rintro c ⟨⟩
    exact ihc

theorem get?_cons (n name : Bytes) (e : Entry) (rest : Listing) :
    (cons name e rest).get? n = if name = n then some e else rest.get? n := by
  cases e <;> rfl

theorem wellFormed_cons {rest : Listing} : (cons name e rest).WellFormed ↔
    ProperName name ∧ rest.get? name = none ∧ e.WellFormed ∧ rest.WellFormed := by
  cases e <;> simp [cons, WellFormed, Entry.WellFormed]

/-- The entries of a well-formed listing are well-formed and have proper names. -/
theorem WellFormed.of_get? (hl : l.WellFormed) (h : l.get? name = some e) : ProperName name ∧ e.WellFormed := by
  induction l using consInduction with
  | empty => cases h
  | cons name' e' rest _ ih =>
    obtain ⟨hname, -, he, hrest⟩ := wellFormed_cons.1 hl
    rw [get?_cons] at h
    split at h
    · next heq =>
      cases h
      exact ⟨heq ▸ hname, he⟩
    · exact ih hrest h

end Listing

/-! ### Entries at names -/

/-- What names lead to from an entry on. -/
def Entry.below? (names : List Bytes) : Entry → Option Entry
  | .dir children => children.entryAt? names
  | .file content => if names.isEmpty then some (.file content) else none
  | .link target => if names.isEmpty then some (.link target) else none

theorem Entry.below?_nil (e : Entry) : e.below? [] = some e := by
  cases e <;> rfl

/-- Only a directory leads on. -/
theorem Entry.below?_cons_eq_some_iff {e e' : Entry} {name : Bytes} {names : List Bytes} :
    e.below? (name :: names) = some e' ↔
      ∃ children, e = .dir children ∧ children.entryAt? (name :: names) = some e' := by
  cases e <;> simp [below?]

namespace Listing

variable {l : Listing} {e : Entry} {name : Bytes} {names : List Bytes}

theorem entryAt?_cons (name : Bytes) (names : List Bytes) (l : Listing) :
    l.entryAt? (name :: names) = (l.get? name).bind (·.below? names) := by
  rw [entryAt?]
  rcases l.get? name with _ | (_ | _ | _) <;> rfl

/-- Names lead on from where the names before them lead. -/
theorem entryAt?_append (names more : List Bytes) (l : Listing) :
    l.entryAt? (names ++ more) = (l.entryAt? names).bind (·.below? more) := by
  induction names generalizing l with
  | nil => rfl
  | cons name names ih =>
    rw [List.cons_append, entryAt?_cons, entryAt?_cons, Option.bind_assoc]
    congr 1
    funext e
    cases e with
    | dir children => exact ih children
    | file content => cases names <;> cases more <;> rfl
    | link target => cases names <;> cases more <;> rfl

/-- What comes before the last name is a directory. -/
theorem exists_of_entryAt?_concat (h : l.entryAt? (names ++ [name]) = some e) :
    ∃ children, l.entryAt? names = some (.dir children) := by
  rw [entryAt?_append] at h
  obtain ⟨e', he', hbelow⟩ := Option.bind_eq_some_iff.1 h
  obtain ⟨children, rfl, -⟩ := Entry.below?_cons_eq_some_iff.1 hbelow
  exact ⟨children, he'⟩

/-- What each directory passes on to its entries is passed on along names. -/
theorem forall_of_entryAt? {ofName : Bytes → Prop} {ofEntry : Entry → Prop}
    (hstep : ∀ children name e, ofEntry (.dir children) → children.get? name = some e → ofName name ∧ ofEntry e)
    (hl : ofEntry (.dir l)) (h : l.entryAt? names = some e) : (∀ n ∈ names, ofName n) ∧ ofEntry e := by
  induction names generalizing l with
  | nil =>
    cases h
    exact ⟨fun n hn => absurd hn List.not_mem_nil, hl⟩
  | cons name names ih =>
    rw [entryAt?_cons] at h
    obtain ⟨e', he', hbelow⟩ := Option.bind_eq_some_iff.1 h
    obtain ⟨hname, hentry⟩ := hstep l name e' hl he'
    cases names with
    | nil =>
      rw [Entry.below?_nil] at hbelow
      cases hbelow
      exact ⟨by simpa using hname, hentry⟩
    | cons n ns =>
      obtain ⟨c, rfl, hc⟩ := Entry.below?_cons_eq_some_iff.1 hbelow
      obtain ⟨hnames, he⟩ := ih hentry hc
      exact ⟨List.forall_mem_cons.2 ⟨hname, hnames⟩, he⟩

/-- Proper names lead to well-formed entries. -/
theorem WellFormed.of_entryAt? (hl : l.WellFormed) (h : l.entryAt? names = some e) :
    (∀ n ∈ names, ProperName n) ∧ e.WellFormed :=
  forall_of_entryAt? (fun _ _ _ hc he => of_get? hc he) hl h

end Listing

/-! ### What paths lead to -/

namespace FileSystem

variable {fs : FileSystem} {p : Path}

/-- What a path leads to is well-formed. -/
theorem WellFormed.of_path (hfs : fs.WellFormed) {e : Entry} (h : fs.entry? p = some e) : e.WellFormed := by
  obtain ⟨names, -, hentry⟩ := Option.bind_eq_some_iff.1 h
  exact (hfs.root.of_entryAt? hentry).2

end FileSystem

end KeywordFinder
