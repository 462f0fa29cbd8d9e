import KeywordFinder.CommandLine.Parser
import KeywordFinder.Proofs.Text.Utf8
import Mathlib.Data.List.Dedup

/-!
# How options are written on a command line

What a command line says about its options is a list of items, each a flag or a setting with its value.  A flag has
names and letters, letters can stand together behind one hyphen, and the value of a setting comes behind a name and a
sign (`SpellsAll`).  Flags are given once and in any order, and only values of one setting keep their order among each
other (`Options.ListedBy`).  For all options there are arguments that write them (`CommandLine.exists_writtenBy`).
-/

namespace KeywordFinder

/-! ### Names and letters -/

namespace Switch

variable {s : Switch} {c : Char} {name : String}

/-- Whether a letter stands for an option. -/
def HasLetter (s : Switch) (c : Char) : Prop := ∃ spellings ∈ allSpellings, spellings.switch = s ∧ c ∈ spellings.short

/-- Whether a name stands for an option. -/
def HasName (s : Switch) (name : String) : Prop :=
  ∃ spellings ∈ allSpellings, spellings.switch = s ∧ name ∈ spellings.long

instance (s : Switch) (c : Char) : Decidable (s.HasLetter c) := List.decidableBEx _ _

instance (s : Switch) (name : String) : Decidable (s.HasName name) := List.decidableBEx _ _

/-- A letter stands for one option only.  It is one byte and no hyphen. -/
theorem HasLetter.ofShort? (h : s.HasLetter c) :
    ∃ b, (∀ t, encode (c :: t) = b :: encode t) ∧ Switch.ofShort? b = some s ∧ b ≠ CommandLine.hyphen := by
  obtain ⟨spellings, hmem, rfl, hc⟩ := h
  -- all options with all their letters
  have hall : (allSpellings.all fun spellings => spellings.short.all fun c => decide (
      encode [c] = [UInt8.ofNat c.toNat] ∧ Switch.ofShort? (UInt8.ofNat c.toNat) = some spellings.switch ∧
        UInt8.ofNat c.toNat ≠ CommandLine.hyphen)) = true := by decide
  obtain ⟨hbyte, hswitch, hhyphen⟩ :=
    of_decide_eq_true (List.all_eq_true.1 (List.all_eq_true.1 hall spellings hmem) c hc)
  refine ⟨_, fun t => ?_, hswitch, hhyphen⟩
  have hsplit : encode (c :: t) = encode [c] ++ encode t := encode_append [c] t
  rw [hsplit, hbyte, List.singleton_append]

/-- A name stands for one option only.  It is not empty and does not hold the sign in front of values. -/
theorem HasName.ofLong? (h : s.HasName name) :
    Switch.ofLong? (bytes name) = some s ∧ bytes name ≠ [] ∧ CommandLine.equalsSign ∉ bytes name := by
  obtain ⟨spellings, hmem, rfl, hname⟩ := h
  have hall : (allSpellings.all fun spellings => spellings.long.all fun name => decide (
      Switch.ofLong? (bytes name) = some spellings.switch ∧ bytes name ≠ [] ∧
        CommandLine.equalsSign ∉ bytes name)) = true := by decide
  exact of_decide_eq_true (List.all_eq_true.1 (List.all_eq_true.1 hall spellings hmem) name hname)

theorem exists_hasName (s : Switch) : ∃ name, s.HasName name := by
  have hnamed : ∃ spellings ∈ allSpellings, spellings.switch = s ∧ spellings.long ≠ [] := by
    cases s with
    | flag f =>
      cases f with
      | only role => cases role <;> decide
      | _ => decide
    | setting s => cases s <;> decide
    | _ => decide
  obtain ⟨spellings, hmem, hs, hne⟩ := hnamed
  obtain ⟨name, names, hlong⟩ := List.exists_cons_of_ne_nil hne
  exact ⟨name, spellings, hmem, hs, hlong ▸ List.mem_cons_self⟩

end Switch

namespace CommandLine

/-! ### Items and arguments -/

/-- One thing that a command line says about its options. -/
inductive Item where
  | flag (f : Flag)
  | extension (e : Text)
  | exclude (p : Text)
  | color (m : ColorMode)
  | config (p : Path)

namespace Item

-- what an item says, if it is of the kind asked for

@[simp] def flag? : Item → Option Flag
  | flag f => some f
  | _ => none

@[simp] def extension? : Item → Option Text
  | extension e => some e
  | _ => none

@[simp] def exclude? : Item → Option Text
  | exclude p => some p
  | _ => none

@[simp] def color? : Item → Option ColorMode
  | color m => some m
  | _ => none

@[simp] def config? : Item → Option Path
  | config p => some p
  | _ => none

/-- The setting that an item makes, and its value as it is written. -/
def value? : Item → Option (Setting × Bytes)
  | flag _ => none
  | extension e => some (.extension, encode e)
  | exclude p => some (.exclude, encode p)
  | color m => some (.color, bytes m.name)
  | config p => some (.config, p)

end Item

/-- An argument that says items: a flag by a name, flags by letters behind one hyphen, or a setting by a name with the
value behind a sign. -/
inductive Spells : List Item → Bytes → Prop
  | name {f : Flag} {name : String} (hname : (Switch.flag f).HasName name) :
      Spells [.flag f] (hyphen :: hyphen :: bytes name)
  | letters {l : List (Flag × Char)} (hne : l ≠ []) (hletters : ∀ p ∈ l, (Switch.flag p.1).HasLetter p.2) :
      Spells (l.map fun p => .flag p.1) (hyphen :: encode (l.map Prod.snd))
  | value {i : Item} {s : Setting} {v : Bytes} {name : String} (hvalue : i.value? = some (s, v))
      (hname : (Switch.setting s).HasName name) : Spells [i] (hyphen :: hyphen :: (bytes name ++ equalsSign :: v))

/-- Arguments that say items. -/
inductive SpellsAll : List Item → List Bytes → Prop
  | nil : SpellsAll [] []
  | cons {items more : List Item} {argument : Bytes} {arguments : List Bytes} (hitems : Spells items argument)
      (hmore : SpellsAll more arguments) : SpellsAll (items ++ more) (argument :: arguments)

theorem exists_spells (i : Item) : ∃ argument, Spells [i] argument := by
  cases h : i.value? with
  | none =>
    cases i with
    | flag f =>
      obtain ⟨name, hname⟩ := Switch.exists_hasName (.flag f)
      exact ⟨_, .name hname⟩
    | _ => cases h
  | some written =>
    obtain ⟨name, hname⟩ := Switch.exists_hasName (.setting written.1)
    exact ⟨_, .value h hname⟩

theorem exists_spellsAll (items : List Item) : ∃ arguments, SpellsAll items arguments := by
  induction items with
  | nil => exact ⟨_, .nil⟩
  | cons i items ih =>
    obtain ⟨argument, hargument⟩ := exists_spells i
    obtain ⟨arguments, harguments⟩ := ih
    exact ⟨_, .cons hargument harguments⟩

end CommandLine

/-! ### Written options -/

open CommandLine

/-- Whether items say what options are: each flag that is given once and no other, and the values of each setting in
their order. -/
structure Options.ListedBy (o : Options) (items : List Item) : Prop where
  once : (items.filterMap Item.flag?).Nodup
  flags : ∀ f, f ∈ items.filterMap Item.flag? ↔ f ∈ o.flags
  extensions : items.filterMap Item.extension? = o.extensions
  excludes : items.filterMap Item.exclude? = o.excludes
  color : items.filterMap Item.color? = o.color.toList
  config : items.filterMap Item.config? = o.config.toList

/-- Whether arguments write options, keyword and path apart. -/
def Options.WrittenBy (o : Options) (arguments : List Bytes) : Prop :=
  ∃ items, o.ListedBy items ∧ SpellsAll items arguments

/-- For all options there are arguments that write them. -/
theorem CommandLine.exists_writtenBy (o : Options) : ∃ arguments, o.WrittenBy arguments := by
  obtain ⟨arguments, harguments⟩ := exists_spellsAll (o.flags.dedup.map .flag ++ (o.extensions.map .extension ++
    (o.excludes.map .exclude ++ (o.color.toList.map .color ++ o.config.toList.map .config))))
  refine ⟨arguments, _, ⟨?_, fun f => ?_, ?_, ?_, ?_, ?_⟩, harguments⟩
  all_goals simp [List.filterMap_map, Function.comp_def, List.nodup_dedup]

end KeywordFinder
