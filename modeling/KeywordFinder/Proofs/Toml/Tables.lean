import KeywordFinder.Proofs.Toml.Documents

/-!
# Building the tables of a document

Statements only ever add to a document: what is at a path of keys stays there (`tableAt_of_build?`), and each statement
adds its own keys (`gains_of_build?`).  A section, which is a header and assignments of different keys, adds one table
with its entries in order (`build?_section`).
-/

namespace KeywordFinder

namespace Toml

variable {key name : Text} {v : Toml} {t t' : Entries} {p path here : List Text} {sts more : List Statement}

namespace Entries

/-! ### Keys -/

theorem mem_of_get? (h : t.get? key = some v) : (key, v) ∈ t := by
  obtain ⟨l₁, l₂, rfl, -⟩ := List.lookup_eq_some_iff.1 h
  exact List.mem_append_right _ List.mem_cons_self

theorem get?_eq_none_iff : t.get? key = none ↔ key ∉ t.map Prod.fst := by
  rw [get?, List.lookup_eq_none_iff, List.mem_map]
  constructor
  · rintro h ⟨e, he, rfl⟩
    exact absurd (h e he) (by simp)
  · intro h e he
    simpa using fun heq : key = e.1 => h ⟨e, he, heq.symm⟩

theorem get?_put_self : (t.put key v).get? key = some v := by
  induction t with
  | nil => simp [put, get?]
  | cons e t ih =>
    rw [put]
    split
    · simp [get?]
    · next hne => rw [get?, List.lookup_cons, beq_false_of_ne (Ne.symm hne), ← get?, ih]

theorem get?_put_of_ne {k : Text} (hne : k ≠ key) : (t.put key v).get? k = t.get? k := by
  induction t with
  | nil => simp [put, get?, List.lookup_cons, beq_false_of_ne hne]
  | cons e t ih =>
    obtain ⟨name, w⟩ := e
    rw [put]
    split
    · next heq =>
      subst heq
      simp [get?, List.lookup_cons, beq_false_of_ne hne]
    · simp only [get?, List.lookup_cons] at ih ⊢
      rw [ih]

theorem put_of_get?_eq_none (h : t.get? key = none) : t.put key v = t ++ [(key, v)] := by
  induction t with
  | nil => rfl
  | cons e t ih =>
    rw [get?_eq_none_iff, List.map_cons, List.mem_cons, not_or] at h
    rw [put, if_neg (Ne.symm h.1), ih (get?_eq_none_iff.2 h.2), List.cons_append]

private theorem get?_concat (h : t.get? key = none) : Entries.get? key (t ++ [(key, v)]) = some v := by
  rw [← put_of_get?_eq_none h, get?_put_self]

private theorem put_concat {w : Toml} (h : t.get? key = none) : put key w (t ++ [(key, v)]) = t ++ [(key, w)] := by
  induction t with
  | nil => simp [put]
  | cons e t ih =>
    rw [get?_eq_none_iff, List.map_cons, List.mem_cons, not_or] at h
    rw [List.cons_append, put, if_neg (Ne.symm h.1), ih (get?_eq_none_iff.2 h.2), List.cons_append]

/-! ### What changes at a path -/

/-- A change at a path gives the first key of the path a value: a table, or an array of tables where that was. -/
theorem alter_cons_cases {dotted : Bool} {f : TableOrigin → Entries → Option Entries} {origin : TableOrigin}
    (h : alter dotted f (key :: path) origin t = some t') : ∃ v, t' = t.put key v ∧
      ((∃ o o' inner inner', v = .table o' inner' ∧ alter dotted f path o inner = some inner' ∧
          (t.get? key = none ∨ t.get? key = some (.table o inner))) ∨
        ∃ items, t.get? key = some (.array true items)) := by
  rw [alter] at h
  split at h
  · next hnone =>
    obtain ⟨inner, hinner, heq⟩ := Option.bind_eq_some_iff.1 h
    cases heq
    exact ⟨_, rfl, .inl ⟨_, _, _, _, rfl, hinner, .inl hnone⟩⟩
  · next o inner hsome =>
    split at h
    · cases h
    · obtain ⟨inner', hinner, heq⟩ := Option.bind_eq_some_iff.1 h
      cases heq
      exact ⟨_, rfl, .inl ⟨_, _, _, _, rfl, hinner, .inr hsome⟩⟩
  · next items hsome =>
    split at h
    · obtain ⟨inner', hinner, heq⟩ := Option.bind_eq_some_iff.1 h
      cases heq
      exact ⟨_, rfl, .inr ⟨_, hsome⟩⟩
    · cases h
  · cases h

/-- Whether a path of keys leads through tables to one with the given property. -/
def TableAt (Q : Entries → Prop) : List Text → Entries → Prop
  | [], t => Q t
  | name :: p, t => ∃ o inner, t.get? name = some (.table o inner) ∧ TableAt Q p inner

section Keeping

variable {Q : Entries → Prop} (hQ : ∀ key v t, Q t → Q (t.put key v))

include hQ

/-- What is at a path stays there if a value is replaced only by a table that keeps it. -/
private theorem TableAt.put (h : TableAt Q p t) (hnew : ∀ o inner p', t.get? key = some (.table o inner) →
    TableAt Q p' inner → ∃ o' inner', v = .table o' inner' ∧ TableAt Q p' inner') : TableAt Q p (t.put key v) := by
  cases p with
  | nil => exact hQ key v t h
  | cons name p =>
    obtain ⟨o, inner, hget, hinner⟩ := h
    by_cases hkey : name = key
    · subst hkey
      obtain ⟨o', inner', rfl, hinner'⟩ := hnew o inner p hget hinner
      exact ⟨o', inner', get?_put_self, hinner'⟩
    · exact ⟨o, inner, by rw [get?_put_of_ne hkey, hget], hinner⟩

/-- Changing one table keeps what is at a path if the change of that table does. -/
private theorem TableAt.alter {dotted : Bool} {f : TableOrigin → Entries → Option Entries} {origin : TableOrigin}
    (hf : ∀ {origin t t' p}, f origin t = some t' → TableAt Q p t → TableAt Q p t')
    (h : Entries.alter dotted f path origin t = some t') (hp : TableAt Q p t) : TableAt Q p t' := by
  induction path generalizing origin t t' p with
  | nil => exact hf h hp
  | cons key path ih =>
    obtain ⟨v, rfl, ⟨o, o', inner, inner', rfl, hinner, hwas⟩ | ⟨items, hwas⟩⟩ := alter_cons_cases h
    -- the first key had no value, or it had the table that is changed; under an array of tables there was no path
    · refine hp.put hQ fun o₁ inner₁ p' hget hp' => ?_
      rcases hwas with hwas | hwas
      · exact absurd (hwas.symm.trans hget) (by simp)
      · rw [hwas] at hget
        cases hget
        exact ⟨_, _, rfl, ih hinner hp'⟩
    · refine hp.put hQ fun o₁ inner₁ p' hget _ => ?_
      rw [hwas] at hget
      cases hget

private theorem TableAt.insertNew? (h : insertNew? key v t = some t') (hp : TableAt Q p t) : TableAt Q p t' := by
  rw [Entries.insertNew?] at h
  split at h
  · cases h
  · next hnone =>
    cases h
    exact hp.put hQ fun o inner _ hget _ => absurd hget (by simp [Option.not_isSome_iff_eq_none.1 hnone])

theorem TableAt.assign? {origin : TableOrigin} (h : assign? path key v origin t = some t') (hp : TableAt Q p t) :
    TableAt Q p t' := by
  refine hp.alter hQ (fun hf hp => ?_) h
  split at hf
  · cases hf
  · exact hp.insertNew? hQ hf

private theorem TableAt.openTable? (h : openTable? path key t = some t') (hp : TableAt Q p t) : TableAt Q p t' := by
  refine hp.alter hQ (fun hf hp => ?_) h
  split at hf
  · next hget =>
    cases hf
    exact hp.put hQ fun o inner _ hget' _ => absurd (hget.symm.trans hget') (by simp)
  · next hget =>
    cases hf
    refine hp.put hQ fun o inner p' hget' hp' => ?_
    rw [hget] at hget'
    cases hget'
    exact ⟨_, _, rfl, hp'⟩
  · cases hf

private theorem TableAt.openArrayTable? (h : openArrayTable? path key t = some t') (hp : TableAt Q p t) :
    TableAt Q p t' := by
  refine hp.alter hQ (fun hf hp => ?_) h
  split at hf
  · next hget =>
    cases hf
    exact hp.put hQ fun o inner _ hget' _ => absurd (hget.symm.trans hget') (by simp)
  · next hget =>
    cases hf
    exact hp.put hQ fun o inner _ hget' _ => absurd (hget.symm.trans hget') (by simp)
  · cases hf

/-- Statements take nothing away. -/
theorem tableAt_of_build? (h : build? here t sts = some t') (hp : TableAt Q p t) : TableAt Q p t' := by
  induction sts generalizing here t with
  | nil =>
    cases h
    exact hp
  | cons st sts ih =>
    cases st with
    | header path key =>
      obtain ⟨t₁, h₁, h⟩ := Option.bind_eq_some_iff.1 h
      exact ih h (hp.openTable? hQ h₁)
    | arrayHeader path key =>
      obtain ⟨t₁, h₁, h⟩ := Option.bind_eq_some_iff.1 h
      exact ih h (hp.openArrayTable? hQ h₁)
    | assignment path key v =>
      obtain ⟨t₁, h₁, h⟩ := Option.bind_eq_some_iff.1 h
      exact ih h (hp.alter hQ (fun hf hp => hp.assign? hQ hf) h₁)

end Keeping

/-! ### What a change adds -/

/-- Whether there is no array of tables. -/
def NoArrays (t : Entries) : Prop := ∀ key items, t.get? key ≠ some (.array true items)

/-- Whether a document has a key in the table at a path. -/
def HasKey (path : List Text) (key : Text) (t : Entries) : Prop :=
  TableAt (fun inner => (inner.get? key).isSome = true) path t

/-- Whether keys, from the outermost one on, are in a document after a change: the first one at the top, and the second
one in its table. -/
structure Gains (keys : List Text) (t t' : Entries) : Prop where
  top : ∀ key, [key] <+: keys → HasKey [] key t'
  below : ∀ name key, [name, key] <+: keys → NoArrays t → HasKey [name] key t'

theorem Gains.mono {keys keys' : List Text} (h : Gains keys' t t') (hkeys : keys <+: keys') : Gains keys t t' :=
  ⟨fun key hkey => h.top key (hkey.trans hkeys), fun name key hkey => h.below name key (hkey.trans hkeys)⟩

private theorem hasKey_put_self : HasKey [] key (t.put key v) := by
  rw [HasKey, TableAt, get?_put_self, Option.isSome_some]

private theorem Gains.put : Gains [key] t (t.put key v) where
  top key' hkey := by
    obtain ⟨rfl, -⟩ := List.cons_prefix_cons.1 hkey
    exact hasKey_put_self
  below name key' hkeys := absurd (List.cons_prefix_cons.1 hkeys).2 (by simp)

/-- Changing the table at a path adds the keys of the path first. -/
private theorem Gains.alter {dotted : Bool} {f : TableOrigin → Entries → Option Entries} {origin : TableOrigin}
    {keys : List Text} (hf : ∀ origin t t', f origin t = some t' → Gains keys t t')
    (h : Entries.alter dotted f path origin t = some t') : Gains (path ++ keys) t t' := by
  induction path generalizing origin t t' with
  | nil => exact hf _ _ _ h
  | cons name path ih =>
    obtain ⟨v, rfl, hv⟩ := alter_cons_cases h
    constructor
    · intro key hkey
      obtain ⟨rfl, -⟩ := List.cons_prefix_cons.1 hkey
      exact hasKey_put_self
    · intro name' key hkeys hno
      obtain ⟨rfl, hkey⟩ := List.cons_prefix_cons.1 hkeys
      obtain ⟨o, o', inner, inner', rfl, hinner, -⟩ | ⟨items, hwas⟩ := hv
      · exact ⟨o', inner', get?_put_self, (ih hinner).top key hkey⟩
      · exact absurd hwas (hno _ _)

private theorem eq_put_of_insertNew? (h : insertNew? key v t = some t') : t' = t.put key v := by
  rw [insertNew?] at h
  split at h
  · cases h
  · cases h
    rfl

private theorem Gains.assign? {origin : TableOrigin} (h : assign? path key v origin t = some t') :
    Gains (path ++ [key]) t t' := by
  refine Gains.alter (fun origin t t' hf => ?_) h
  split at hf
  · cases hf
  · rw [eq_put_of_insertNew? hf]
    exact .put

private theorem Gains.openTable? (h : openTable? path key t = some t') : Gains (path ++ [key]) t t' := by
  refine Gains.alter (fun origin t t' hf => ?_) h
  split at hf
  · cases hf
    exact .put
  · cases hf
    exact .put
  · cases hf

private theorem Gains.openArrayTable? (h : openArrayTable? path key t = some t') : Gains (path ++ [key]) t t' := by
  refine Gains.alter (fun origin t t' hf => ?_) h
  split at hf
  · cases hf
    exact .put
  · cases hf
    exact .put
  · cases hf

theorem NoArrays.put (h : NoArrays t) (hv : ∀ items, v ≠ .array true items) : NoArrays (t.put key v) := by
  intro name items heq
  by_cases hname : name = key
  · rw [hname, get?_put_self] at heq
    exact hv items (Option.some.inj heq)
  · rw [get?_put_of_ne hname] at heq
    exact h name items heq

end Entries

open Entries

/-! ### What statements add -/

/-- The path of the table to which assignments after the given statements belong. -/
def placeAfter (here : List Text) : List Statement → List Text
  | [] => here
  | .header path key :: sts => placeAfter (path ++ [key]) sts
  | .arrayHeader path key :: sts => placeAfter (path ++ [key]) sts
  | .assignment .. :: sts => placeAfter here sts

theorem build?_append :
    build? here t (sts ++ more) = (build? here t sts).bind fun t' => build? (placeAfter here sts) t' more := by
  induction sts generalizing here t with
  | nil => rfl
  | cons st sts ih =>
    cases st <;> simp only [List.cons_append, build?, placeAfter, ih, Option.bind_eq_bind, Option.bind_assoc]

private theorem isSome_get?_put (key name : Text) (v : Toml) (t : Entries) (h : (t.get? key).isSome = true) :
    ((t.put name v).get? key).isSome = true := by
  by_cases hkey : key = name
  · rw [hkey, get?_put_self, Option.isSome_some]
  · rwa [get?_put_of_ne hkey]

/-- A document has the first key of each of its statements, and in the table of that key the second one. -/
theorem gains_of_build? {st : Statement} (h : build? here t (st :: sts) = some t') :
    Gains (st.namesFrom here) t t' := by
  have hstep : ∃ here' t₁, Gains (st.namesFrom here) t t₁ ∧ build? here' t₁ sts = some t' := by
    cases st with
    | header path last =>
      obtain ⟨t₁, h₁, h⟩ := Option.bind_eq_some_iff.1 h
      exact ⟨_, t₁, .openTable? h₁, h⟩
    | arrayHeader path last =>
      obtain ⟨t₁, h₁, h⟩ := Option.bind_eq_some_iff.1 h
      exact ⟨_, t₁, .openArrayTable? h₁, h⟩
    | assignment path last v =>
      obtain ⟨t₁, h₁, h⟩ := Option.bind_eq_some_iff.1 h
      exact ⟨_, t₁, .alter (fun _ _ _ hf => .assign? hf) h₁, h⟩
  obtain ⟨here', t₁, hgains, h⟩ := hstep
  constructor
  · exact fun key hkey => tableAt_of_build? (isSome_get?_put key) h (hgains.top key hkey)
  · exact fun name key hkeys hno => tableAt_of_build? (isSome_get?_put key) h (hgains.below name key hkeys hno)

/-- Statements that are spelled here make no array of tables. -/
theorem noArrays_of_build? (hsts : ∀ st ∈ sts, ∃ s, SpellsStatement st s) (h : build? here t sts = some t')
    (hno : NoArrays t) : NoArrays t' := by
  induction sts generalizing here t with
  | nil =>
    cases h
    exact hno
  | cons st sts ih =>
    rw [List.forall_mem_cons] at hsts
    obtain ⟨⟨s, hs⟩, hsts⟩ := hsts
    cases hs with
    | header =>
      obtain ⟨t₁, h₁, h⟩ := Option.bind_eq_some_iff.1 h
      refine ih hsts h ?_
      rw [openTable?, alter] at h₁
      split at h₁
      · cases h₁
        exact hno.put fun _ => nofun
      · cases h₁
        exact hno.put fun _ => nofun
      · cases h₁
    | assignment _ _ _ hvalue =>
      obtain ⟨t₁, h₁, h⟩ := Option.bind_eq_some_iff.1 h
      refine ih hsts h ?_
      cases here with
      | nil =>
        rw [alter, assign?, alter] at h₁
        split at h₁
        · cases h₁
        · rw [eq_put_of_insertNew? h₁]
          exact hno.put fun items => by cases hvalue <;> nofun
      | cons name here =>
        obtain ⟨v, rfl, ⟨_, _, _, _, rfl, -⟩ | ⟨items, hwas⟩⟩ := alter_cons_cases h₁
        · exact hno.put fun _ => nofun
        · exact absurd hwas (hno _ _)

/-! ### Sections -/

/-- A header and assignments below it. -/
def sectionOf (name : Text) (entries : Entries) : List Statement :=
  .header [] name :: entries.map fun e => .assignment [] e.1 e.2

private theorem alter_section {inner : Entries} (hname : t.get? name = none) (hkey : inner.get? key = none) :
    Entries.alter false (assign? [] key v) [name] .header (t ++ [(name, .table .header inner)]) =
      some (t ++ [(name, .table .header (inner ++ [(key, v)]))]) := by
  have hassign : assign? [] key v .header inner = some (inner ++ [(key, v)]) := by
    rw [← put_of_get?_eq_none hkey]
    simp [assign?, alter, insertNew?, hkey]
  simp [alter, get?_concat hname, hassign, put_concat hname]

/-- Entries of the section that is open are added one by one behind those that are there. -/
private theorem build?_assignments {inner entries : Entries} (hname : t.get? name = none)
    (hkeys : ((inner ++ entries).map Prod.fst).Nodup) :
    build? [name] (t ++ [(name, .table .header inner)]) ((entries.map fun e => .assignment [] e.1 e.2) ++ more) =
      build? [name] (t ++ [(name, .table .header (inner ++ entries))]) more := by
  induction entries generalizing inner with
  | nil =>
    rw [List.append_nil]
    rfl
  | cons e entries ih =>
    have hkey : inner.get? e.1 = none := by
      rw [get?_eq_none_iff]
      rw [List.map_append, List.nodup_append] at hkeys
      exact fun hmem => hkeys.2.2 _ hmem _ List.mem_cons_self rfl
    rw [List.append_cons inner] at hkeys ⊢
    rw [List.map_cons, List.cons_append, build?, alter_section hname hkey, Option.bind_eq_bind, Option.bind_some,
      ih hkeys]

/-- A section adds a table with its entries at the end. -/
theorem build?_section {entries : Entries} (hname : t.get? name = none) (hkeys : (entries.map Prod.fst).Nodup) :
    build? here t (sectionOf name entries ++ more) = build? [name] (t ++ [(name, .table .header entries)]) more := by
  have hopen : openTable? [] name t = some (t ++ [(name, .table .header [])]) := by
    rw [openTable?, alter, hname]
    exact congrArg some (put_of_get?_eq_none hname)
  rw [sectionOf, List.cons_append, build?, hopen, Option.bind_eq_bind, Option.bind_some, List.nil_append]
  exact build?_assignments hname hkeys

end Toml

end KeywordFinder
