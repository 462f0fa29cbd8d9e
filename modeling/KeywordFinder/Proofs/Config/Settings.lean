import KeywordFinder.Config.Reading
import KeywordFinder.Proofs.Toml.Tables
import Mathlib.Data.List.Pairwise

/-!
# The settings of a table

A reader of a table knows a list of settings: each has a key, reads its value and changes its own part of a record
(`KeySetting.ReadBy`).  So the order of keys has no part in what is read (`KeyReader.Commutes.foldlM_perm`), and a table
with another key is refused (`record?_eq_none`).
-/

namespace KeywordFinder

open Toml

/-! ### The order of keys -/

section Order

variable {α : Type} {read : KeyReader α}

/-- Whether readings of different keys can change places. -/
def KeyReader.Commutes (read : KeyReader α) : Prop :=
  ∀ r key v key' v', key ≠ key' → (read r key v).bind (read · key' v') = (read r key' v').bind (read · key v)

/-- The order of different keys has no part in what is read. -/
theorem KeyReader.Commutes.foldlM_perm (hread : KeyReader.Commutes read) {entries entries' : Entries}
    (hperm : entries.Perm entries') (hkeys : (entries.map Prod.fst).Nodup) (r : α) :
    entries.foldlM (fun r e => read r e.1 e.2) r = entries'.foldlM (fun r e => read r e.1 e.2) r := by
  induction hperm generalizing r with
  | nil => rfl
  | cons e _ ih =>
    rw [List.foldlM_cons, List.foldlM_cons]
    exact congrArg _ (funext fun r => ih (List.nodup_cons.1 hkeys).2 r)
  | swap e e' l =>
    have hne : e'.1 ≠ e.1 := fun heq => (List.nodup_cons.1 hkeys).1 (heq ▸ List.mem_cons_self)
    simp only [List.foldlM_cons, Option.bind_eq_bind, ← Option.bind_assoc, hread r _ e'.2 _ e.2 hne]
  | trans hperm _ ih ih' => rw [ih hkeys, ih' ((hperm.map Prod.fst).nodup_iff.1 hkeys)]

/-- An entry that is always refused makes the whole be refused. -/
theorem foldlM_eq_none_of_get? {entries : Entries} {key : Text} {v : Toml} (hv : entries.get? key = some v)
    (hnone : ∀ r, read r key v = none) (r : α) : entries.foldlM (fun r e => read r e.1 e.2) r = none := by
  obtain ⟨front, behind, rfl⟩ := List.append_of_mem (Entries.mem_of_get? hv)
  rw [List.foldlM_append]
  simp [hnone]

end Order

/-! ### The settings of a record -/

/-- A setting of a record: its key, how its value is read, and what that changes. -/
structure KeySetting (α : Type) where
  key : Text
  {Value : Type}
  value? : Toml → Option Value
  set : α → Value → α

namespace KeySetting

variable {α : Type} {read : KeyReader α} {settings : List (KeySetting α)}

/-- Reads a value into a record. -/
def apply (s : KeySetting α) (r : α) (v : Toml) : Option α := (s.value? v).map (s.set r)

/-- Whether two settings change different parts of a record. -/
def Apart (s s' : KeySetting α) : Prop := ∀ r a b, s'.set (s.set r a) b = s.set (s'.set r b) a

/-- Whether a reader looks for the setting of a key and refuses keys without one. -/
def ReadBy (settings : List (KeySetting α)) (read : KeyReader α) : Prop :=
  ∀ r key v, read r key v = (settings.find? (·.key = key)).bind (·.apply r v)

private theorem find?_eq_none {key : Text} (hkey : key ∉ settings.map (·.key)) :
    settings.find? (·.key = key) = none := by
  rw [List.find?_eq_none]
  intro s hs heq
  exact hkey (List.mem_map.2 ⟨s, hs, of_decide_eq_true heq⟩)

theorem ReadBy.eq_none (h : ReadBy settings read) {key : Text} (hkey : key ∉ settings.map (·.key)) (r : α) (v : Toml) :
    read r key v = none := by
  rw [h, find?_eq_none hkey, Option.bind_none]

instance : Std.Symm (@Apart α) := ⟨fun _ _ h r a b => (h r b a).symm⟩

theorem ReadBy.commutes (h : ReadBy settings read) (hapart : settings.Pairwise Apart) : KeyReader.Commutes read := by
  intro r key v key' v' hne
  simp only [h r, h _ key', h _ key]
  cases hs : settings.find? (·.key = key) with
  | none => simp
  | some s =>
    cases hs' : settings.find? (·.key = key') with
    | none => simp
    | some s' =>
      have hkey : s.key = key := by simpa using List.find?_some hs
      have hkey' : s'.key = key' := by simpa using List.find?_some hs'
      have hss : Apart s s' := by
        refine hapart.forall (List.mem_of_find?_eq_some hs) (List.mem_of_find?_eq_some hs') ?_
        rintro rfl
        exact hne (hkey.symm.trans hkey')
      simp only [Option.bind_some, apply]
      cases s.value? v <;> cases s'.value? v' <;> simp [hss r]

end KeySetting

/-- The settings of the table `search`. -/
def SearchSettings.settings : List (KeySetting SearchSettings) := [
  ⟨"extensions".toList, Toml.strings?, fun r l => { r with extensions := l }⟩,
  ⟨"ignore_case".toList, Toml.boolean?, fun r b => { r with ignoreCase := b }⟩,
  ⟨"color".toList, fun v => v.variant?.bind fun s => ColorMode.ofName? (String.ofList s),
    fun r mode => { r with color := some mode }⟩]

/-- The settings of the table `walk`. -/
def WalkSettings.settings : List (KeySetting WalkSettings) := [
  ⟨"exclude".toList, Toml.strings?, fun r l => { r with exclude := l }⟩,
  ⟨"gitignore".toList, Toml.boolean?, fun r b => { r with gitignore := b }⟩,
  ⟨"skip_hidden".toList, Toml.boolean?, fun r b => { r with skipHidden := b }⟩,
  ⟨"max_depth".toList, Toml.natural?, fun r n => { r with maxDepth := some n }⟩]

private theorem eq_toList {key : Text} {name : String} (h : String.ofList key = name) : key = name.toList := by
  rw [← h, String.toList_ofList]

theorem SearchSettings.readBy_settings : KeySetting.ReadBy settings readKey := by
  intro r key v
  simp only [readKey]
  split
  · next heq =>
    rw [eq_toList heq]
    rfl
  · next heq =>
    rw [eq_toList heq]
    rfl
  · next heq =>
    rw [eq_toList heq]
    change _ = (v.variant?.bind fun s => ColorMode.ofName? (String.ofList s)).map _
    rw [Option.map_bind]
    congr 1
    funext s
    cases hmode : ColorMode.ofName? (String.ofList s) <;> simp [hmode]
  · next hextensions hignoreCase hcolor =>
    rw [KeySetting.find?_eq_none, Option.bind_none]
    simp only [settings, List.map_cons, List.map_nil, List.mem_cons, List.not_mem_nil, or_false]
    rintro (rfl | rfl | rfl)
    · exact hextensions String.ofList_toList
    · exact hignoreCase String.ofList_toList
    · exact hcolor String.ofList_toList

theorem WalkSettings.readBy_settings : KeySetting.ReadBy settings readKey := by
  intro r key v
  simp only [readKey]
  split
  · next heq =>
    rw [eq_toList heq]
    rfl
  · next heq =>
    rw [eq_toList heq]
    rfl
  · next heq =>
    rw [eq_toList heq]
    rfl
  · next heq =>
    rw [eq_toList heq]
    rfl
  · next hexclude hgitignore hskipHidden hmaxDepth =>
    rw [KeySetting.find?_eq_none, Option.bind_none]
    simp only [settings, List.map_cons, List.map_nil, List.mem_cons, List.not_mem_nil, or_false]
    rintro (rfl | rfl | rfl | rfl)
    · exact hexclude String.ofList_toList
    · exact hgitignore String.ofList_toList
    · exact hskipHidden String.ofList_toList
    · exact hmaxDepth String.ofList_toList

theorem SearchSettings.commutes_readKey : KeyReader.Commutes readKey :=
  readBy_settings.commutes (by simp [settings, KeySetting.Apart])

theorem WalkSettings.commutes_readKey : KeyReader.Commutes readKey :=
  readBy_settings.commutes (by simp [settings, KeySetting.Apart])

/-! ### Keys without a setting -/

/-- A document with a table of another name is refused. -/
theorem Config.readKey_eq_none {key : Text} (hkey : key ∉ ["search".toList, "walk".toList]) (c : Config) (v : Toml) :
    c.readKey key v = none := by
  simp only [List.mem_cons, List.not_mem_nil, or_false, not_or] at hkey
  rw [readKey]
  split
  · next heq => exact absurd (eq_toList heq) hkey.1
  · next heq => exact absurd (eq_toList heq) hkey.2
  · rfl

/-- A table with an unknown key is refused. -/
theorem record?_eq_none {α : Type} {settings : List (KeySetting α)} {read : KeyReader α} {keys : List Text}
    {initial : α} {key : Text} {o : TableOrigin} {entries : Entries} (hread : KeySetting.ReadBy settings read)
    (hkey : key ∉ settings.map (·.key)) (hentries : (entries.get? key).isSome = true) :
    (Toml.table o entries).record? keys read initial = none := by
  obtain ⟨v, hv⟩ := Option.isSome_iff_exists.1 hentries
  exact foldlM_eq_none_of_get? hv (fun r => hread.eq_none hkey r v) initial

end KeywordFinder
