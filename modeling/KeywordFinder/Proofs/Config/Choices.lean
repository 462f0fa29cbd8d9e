import KeywordFinder.Proofs.Config.Settings

/-!
# Configurations and their documents

A document makes some of the settings of a configuration and leaves the others to their defaults (`ConfigChoice`).  In
whatever order its keys and sections stand and however they are spelled, the configuration is read from it, and a
document with a key that leads to no setting is refused, whatever else it says (`Config.ofContent_of_choice`).
-/

namespace KeywordFinder

open Toml

/-! ### Choices of settings -/

/-- The settings that a document makes.  Each may be left to its default. -/
structure ConfigChoice where
  extensions : Option (List Text)
  ignoreCase : Option Bool
  color : Option ColorMode
  exclude : Option (List Text)
  gitignore : Option Bool
  skipHidden : Option Bool
  maxDepth : Option UInt64

namespace ConfigChoice

/-- The entry of a key, if its setting is made. -/
def entry (key : String) (write : β → Toml) (o : Option β) : Entries := (o.map fun b => (key.toList, write b)).toList

/-- A list of texts as an array. -/
def ofTexts (l : List Text) : Toml := .array false (l.map .string)

variable (g : ConfigChoice)

/-- The entries of the table `search`. -/
def searchEntries : Entries :=
  entry "extensions" ofTexts g.extensions ++ (entry "ignore_case" .boolean g.ignoreCase ++
    entry "color" (fun mode : ColorMode => .string mode.name.toList) g.color)

/-- The entries of the table `walk`. -/
def walkEntries : Entries :=
  entry "exclude" ofTexts g.exclude ++ (entry "gitignore" .boolean g.gitignore ++
    (entry "skip_hidden" .boolean g.skipHidden ++ entry "max_depth" (fun n : UInt64 => .integer n.toNat) g.maxDepth))

/-- The configuration with the settings that are made, and the default of each other one. -/
def config : Config where
  search := {
    extensions := g.extensions.getD ["py".toList]
    ignoreCase := g.ignoreCase.getD false
    color := g.color }
  walk := {
    exclude := g.exclude.getD []
    gitignore := g.gitignore.getD false
    skipHidden := g.skipHidden.getD false
    maxDepth := g.maxDepth.map (·.toNat) }

/-- Whether statements are a section with the given entries in any order.  Without entries there may be no section. -/
def IsSection (name : Text) (entries : Entries) (sts : List Statement) : Prop :=
  (∃ l : Entries, l.Perm entries ∧ sts = sectionOf name l) ∨ (entries = [] ∧ sts = [])

/-- Whether statements make the settings, with keys and sections in any order. -/
def Arranges (sts : List Statement) : Prop :=
  ∃ search walk, IsSection "search".toList g.searchEntries search ∧ IsSection "walk".toList g.walkEntries walk ∧
    (sts = search ++ walk ∨ sts = walk ++ search)

variable {g}

private theorem foldlM_entry {α β : Type} {read : KeyReader α} {key : String} {write : β → Toml} {set : α → β → α}
    (h : ∀ r b, read r key.toList (write b) = some (set r b)) (r : α) (o : Option β) :
    (entry key write o).foldlM (fun r e => read r e.1 e.2) r = some (o.elim r (set r)) := by
  cases o with
  | none => rfl
  | some b => simp [entry, h]

private theorem strings?_ofTexts (l : List Text) : (ofTexts l).strings? = some l := by
  change (l.map Toml.string).mapM _ = some l
  induction l with
  | nil => rfl
  | cons t l ih =>
    rw [List.map_cons, List.mapM_cons, ih]
    rfl

private theorem map_strings?_ofTexts {α : Type} (set : List Text → α) (l : List Text) :
    (ofTexts l).strings?.map set = some (set l) := by
  rw [strings?_ofTexts, Option.map_some]

/-- From the entries of the table `search` its settings are read. -/
theorem foldlM_searchEntries :
    g.searchEntries.foldlM (fun r e => SearchSettings.readKey r e.1 e.2) {} = some g.config.search := by
  have hcolor : ∀ (r : SearchSettings) (mode : ColorMode),
      r.readKey "color".toList (.string mode.name.toList) = some { r with color := some mode } := by
    intro r mode
    cases mode <;> rfl
  have hextensions : ∀ (r : SearchSettings) (l : List Text),
      r.readKey "extensions".toList (ofTexts l) = some { r with extensions := l } := fun r =>
    map_strings?_ofTexts _
  have hignoreCase : ∀ (r : SearchSettings) (b : Bool),
      r.readKey "ignore_case".toList (.boolean b) = some { r with ignoreCase := b } := fun _ _ => rfl
  simp only [searchEntries, List.foldlM_append, foldlM_entry hextensions, foldlM_entry hignoreCase,
    foldlM_entry hcolor, Option.bind_eq_bind, Option.bind_some]
  rcases g with ⟨_ | l, _ | b, _ | mode, -, -, -, -⟩ <;> rfl

/-- From the entries of the table `walk` its settings are read. -/
theorem foldlM_walkEntries :
    g.walkEntries.foldlM (fun r e => WalkSettings.readKey r e.1 e.2) {} = some g.config.walk := by
  have hexclude : ∀ (r : WalkSettings) (l : List Text),
      r.readKey "exclude".toList (ofTexts l) = some { r with exclude := l } := fun r => map_strings?_ofTexts _
  have hgitignore : ∀ (r : WalkSettings) (b : Bool),
      r.readKey "gitignore".toList (.boolean b) = some { r with gitignore := b } := fun _ _ => rfl
  have hskipHidden : ∀ (r : WalkSettings) (b : Bool),
      r.readKey "skip_hidden".toList (.boolean b) = some { r with skipHidden := b } := fun _ _ => rfl
  have hmaxDepth : ∀ (r : WalkSettings) (n : UInt64),
      r.readKey "max_depth".toList (.integer n.toNat) = some { r with maxDepth := some n.toNat } := by
    intro r n
    have hle := n.toNat_lt
    have hread : Toml.natural? (.integer n.toNat) = some n.toNat := by
      rw [natural?, if_pos (by omega)]
      rfl
    change (Toml.natural? (.integer n.toNat)).map _ = _
    rw [hread, Option.map_some]
  simp only [walkEntries, List.foldlM_append, foldlM_entry hexclude, foldlM_entry hgitignore, foldlM_entry hskipHidden,
    foldlM_entry hmaxDepth, Option.bind_eq_bind, Option.bind_some]
  rcases g with ⟨-, -, -, _ | l, _ | b, _ | b', _ | n⟩ <;> rfl

private theorem map_entry_sublist {β : Type} {key : String} {write : β → Toml} {o : Option β} :
    ((entry key write o).map Prod.fst).Sublist [key.toList] := by
  cases o with
  | none => exact List.nil_sublist _
  | some b => exact List.Sublist.refl _

theorem nodup_searchEntries : (g.searchEntries.map Prod.fst).Nodup := by
  have hkeys : (["extensions".toList] ++ (["ignore_case".toList] ++ ["color".toList])).Nodup := by decide
  simp only [searchEntries, List.map_append]
  exact hkeys.sublist (map_entry_sublist.append (map_entry_sublist.append map_entry_sublist))

theorem nodup_walkEntries : (g.walkEntries.map Prod.fst).Nodup := by
  have hkeys : (["exclude".toList] ++ (["gitignore".toList] ++
      (["skip_hidden".toList] ++ ["max_depth".toList]))).Nodup := by decide
  simp only [walkEntries, List.map_append]
  exact hkeys.sublist (map_entry_sublist.append (map_entry_sublist.append (map_entry_sublist.append map_entry_sublist)))

/-! ### Documents of choices -/

private theorem exists_spellsValue_of_mem_entry {β : Type} {key : String} {write : β → Toml} {o : Option β}
    {e : Text × Toml} (hwrite : ∀ b, ∃ s, SpellsValue (write b) s) (he : e ∈ entry key write o) :
    ∃ s, SpellsValue e.2 s := by
  rw [entry, Option.mem_toList, Option.map_eq_some_iff] at he
  obtain ⟨b, -, rfl⟩ := he
  exact hwrite b

private theorem exists_spellsValue_ofTexts (l : List Text) : ∃ s, SpellsValue (ofTexts l) s := by
  obtain ⟨s, hs⟩ := exists_spellsItems l
  exact ⟨_, .strings hs⟩

private theorem exists_spellsValue_boolean (b : Bool) : ∃ s, SpellsValue (.boolean b) s := by
  cases b with
  | true => exact ⟨_, .yes⟩
  | false => exact ⟨_, .no⟩

private theorem exists_spellsValue_search {e : Text × Toml} (he : e ∈ g.searchEntries) : ∃ s, SpellsValue e.2 s := by
  simp only [searchEntries, List.mem_append] at he
  rcases he with he | he | he
  · exact exists_spellsValue_of_mem_entry exists_spellsValue_ofTexts he
  · exact exists_spellsValue_of_mem_entry exists_spellsValue_boolean he
  · refine exists_spellsValue_of_mem_entry (fun mode => ?_) he
    obtain ⟨s, hs⟩ := exists_spellsString mode.name.toList
    exact ⟨s, .string hs⟩

private theorem exists_spellsValue_walk {e : Text × Toml} (he : e ∈ g.walkEntries) : ∃ s, SpellsValue e.2 s := by
  simp only [walkEntries, List.mem_append] at he
  rcases he with he | he | he | he
  · exact exists_spellsValue_of_mem_entry exists_spellsValue_ofTexts he
  · exact exists_spellsValue_of_mem_entry exists_spellsValue_boolean he
  · exact exists_spellsValue_of_mem_entry exists_spellsValue_boolean he
  · refine exists_spellsValue_of_mem_entry (fun n => ?_) he
    obtain ⟨s, hs⟩ := exists_spellsNatural n.toNat
    exact ⟨s, .natural hs⟩

private theorem IsSection.exists_spellsStatement {name : Text} {entries : Entries} {sts : List Statement}
    {st : Statement} (h : IsSection name entries sts) (hentries : ∀ e ∈ entries, ∃ s, SpellsValue e.2 s)
    (hst : st ∈ sts) : ∃ s, SpellsStatement st s := by
  obtain ⟨l, hperm, rfl⟩ | ⟨-, rfl⟩ := h
  · rcases List.mem_cons.1 hst with rfl | hst
    · exact exists_spellsStatement_header name
    · obtain ⟨e, he, rfl⟩ := List.mem_map.1 hst
      exact exists_spellsStatement_assignment _ (hentries e (hperm.subset he))
  · exact absurd hst List.not_mem_nil

/-- Statements that make the settings can be written down. -/
theorem Arranges.exists_spellsDocument {sts : List Statement} (h : g.Arranges sts) :
    ∃ document, SpellsDocument sts document := by
  obtain ⟨search, walk, hsearch, hwalk, hsts⟩ := h
  refine Toml.exists_spellsDocument fun st hst => ?_
  have hmem : st ∈ search ∨ st ∈ walk := by
    rcases hsts with rfl | rfl
    · exact List.mem_append.1 hst
    · exact (List.mem_append.1 hst).symm
  rcases hmem with hmem | hmem
  · exact hsearch.exists_spellsStatement (fun _ => exists_spellsValue_search) hmem
  · exact hwalk.exists_spellsStatement (fun _ => exists_spellsValue_walk) hmem

/-! ### Reading choices -/

/-- Whether a table with the given entries in any order is all there is.  Without entries there may be no table. -/
private def IsTableOf (name : Text) (entries added : Entries) : Prop :=
  (∃ l : Entries, l.Perm entries ∧ added = [(name, .table .header l)]) ∨ (entries = [] ∧ added = [])

private theorem IsTableOf.get?_eq_none {name name' : Text} {entries added : Entries} (h : IsTableOf name entries added)
    (hne : name' ≠ name) : added.get? name' = none := by
  rw [Entries.get?_eq_none_iff]
  obtain ⟨l, -, rfl⟩ | ⟨-, rfl⟩ := h
  · simpa using hne
  · exact List.not_mem_nil

private theorem build?_of_isSection {name : Text} {entries t : Entries} {here : List Text} {sts : List Statement}
    (h : IsSection name entries sts) (hname : t.get? name = none) (hkeys : (entries.map Prod.fst).Nodup) :
    ∃ here' added, IsTableOf name entries added ∧
      ∀ more, build? here t (sts ++ more) = build? here' (t ++ added) more := by
  obtain ⟨l, hperm, rfl⟩ | ⟨hnil, rfl⟩ := h
  · exact ⟨_, _, .inl ⟨l, hperm, rfl⟩, fun more => build?_section hname ((hperm.map Prod.fst).nodup_iff.2 hkeys)⟩
  · refine ⟨here, [], .inr ⟨hnil, rfl⟩, fun more => ?_⟩
    rw [List.append_nil]
    rfl

/-- Two sections make a document of two tables. -/
private theorem build?_of_isSection₂ {name name' : Text} {entries entries' : Entries} {sts sts' : List Statement}
    (hne : name' ≠ name) (h : IsSection name entries sts) (h' : IsSection name' entries' sts')
    (hkeys : (entries.map Prod.fst).Nodup) (hkeys' : (entries'.map Prod.fst).Nodup) :
    ∃ added added', IsTableOf name entries added ∧ IsTableOf name' entries' added' ∧
      build? [] [] (sts ++ sts') = some (added ++ added') := by
  obtain ⟨here, added, hadded, hbuild⟩ :
      ∃ here added, IsTableOf name entries added ∧
        ∀ more, build? [] [] (sts ++ more) = build? here ([] ++ added) more :=
    build?_of_isSection h rfl hkeys
  obtain ⟨here', added', hadded', hbuild'⟩ :
      ∃ here' added', IsTableOf name' entries' added' ∧
        ∀ more, build? here added (sts' ++ more) = build? here' (added ++ added') more :=
    build?_of_isSection h' (hadded.get?_eq_none hne) hkeys'
  refine ⟨added, added', hadded, hadded', ?_⟩
  rw [hbuild, List.nil_append, ← List.append_nil sts', hbuild']
  rfl

/-- From a table its record is read. -/
private theorem IsTableOf.foldlM_readKey {α : Type} {read : KeyReader α} {keys : List Text} {initial result : α}
    {name : Text} {entries added : Entries} {set : Config → α → Config} {c : Config} (h : IsTableOf name entries added)
    (hname : ∀ c v, Config.readKey c name v = (v.record? keys read initial).map (set c))
    (hread : KeyReader.Commutes read) (hkeys : (entries.map Prod.fst).Nodup)
    (hresult : entries.foldlM (fun r e => read r e.1 e.2) initial = some result) (hc : set c initial = c) :
    added.foldlM (fun c e => Config.readKey c e.1 e.2) c = some (set c result) := by
  obtain ⟨l, hperm, rfl⟩ | ⟨rfl, rfl⟩ := h
  · have hl : l.foldlM (fun r e => read r e.1 e.2) initial = some result := by
      rw [← hresult]
      exact hread.foldlM_perm hperm ((hperm.map Prod.fst).nodup_iff.2 hkeys) initial
    simp [hname, record?, hl]
  · cases hresult
    rw [hc]
    rfl

/-- The settings of a choice are read from each of its documents. -/
theorem Arranges.parse? {sts : List Statement} {document : Text} (h : g.Arranges sts)
    (hdocument : SpellsDocument sts document) : Config.parse? document = some g.config := by
  obtain ⟨search, walk, hsearch, hwalk, hsts⟩ := h
  have hreadSearch : ∀ {added : Entries} (walk : WalkSettings), IsTableOf "search".toList g.searchEntries added →
      added.foldlM (fun c e => Config.readKey c e.1 e.2) { walk } = some { search := g.config.search, walk } :=
    fun _ h =>
      h.foldlM_readKey (fun _ _ => rfl) SearchSettings.commutes_readKey nodup_searchEntries foldlM_searchEntries rfl
  have hreadWalk : ∀ {added : Entries} (search : SearchSettings), IsTableOf "walk".toList g.walkEntries added →
      added.foldlM (fun c e => Config.readKey c e.1 e.2) { search } = some { search, walk := g.config.walk } :=
    fun _ h =>
      h.foldlM_readKey (fun _ _ => rfl) WalkSettings.commutes_readKey nodup_walkEntries foldlM_walkEntries rfl
  rw [Config.parse?, parse?_of_spellsDocument hdocument]
  -- each table makes its own part of the settings, so either may come first
  rcases hsts with rfl | rfl
  · obtain ⟨added, added', hadded, hadded', hbuild⟩ :=
      build?_of_isSection₂ (by decide) hsearch hwalk nodup_searchEntries nodup_walkEntries
    simp only [hbuild, Option.bind_eq_bind, Option.bind_some, List.foldlM_append, hreadSearch _ hadded,
      hreadWalk _ hadded']
  · obtain ⟨added, added', hadded, hadded', hbuild⟩ :=
      build?_of_isSection₂ (by decide) hwalk hsearch nodup_walkEntries nodup_searchEntries
    simp only [hbuild, Option.bind_eq_bind, Option.bind_some, List.foldlM_append, hreadWalk _ hadded,
      hreadSearch _ hadded']

end ConfigChoice

/-! ### Keys without a meaning -/

/-- Whether keys, from the top of a document on, lead to no setting. -/
inductive LeadsNowhere : List Text → Prop
  | top {key : Text} {more : List Text} (h : key ∉ ["search".toList, "walk".toList]) : LeadsNowhere (key :: more)
  | search {key : Text} {more : List Text}
      (h : key ∉ ["extensions".toList, "ignore_case".toList, "color".toList]) :
      LeadsNowhere ("search".toList :: key :: more)
  | walk {key : Text} {more : List Text}
      (h : key ∉ ["exclude".toList, "gitignore".toList, "skip_hidden".toList, "max_depth".toList]) :
      LeadsNowhere ("walk".toList :: key :: more)

/-- Whether a document has, behind any lines, an assignment or a header with keys that lead to no setting.  What stands
behind the keys does not matter. -/
inductive HasUnknownKey : Text → Prop
  | assignment {sts : List Statement} {lines gap written rest : Text} {keys : List Text}
      (hlines : SpellsLines sts lines) (hgap : IsGap gap) (hkeys : SpellsPath keys written) (hrest : EndsKey rest)
      (hnowhere : LeadsNowhere (placeAfter [] sts ++ keys)) : HasUnknownKey (lines ++ (gap ++ (written ++ rest)))
  | header {sts : List Statement} {lines gap bracket spaces written rest : Text} {keys : List Text}
      (hlines : SpellsLines sts lines) (hgap : IsGap gap) (hbracket : bracket ∈ [['['], ['[', '[']])
      (hspaces : IsSpaces spaces) (hkeys : SpellsPath keys written) (hrest : EndsKey rest)
      (hnowhere : LeadsNowhere keys) : HasUnknownKey (lines ++ (gap ++ (bracket ++ (spaces ++ (written ++ rest)))))

/-- Keys that lead to no setting are refused where they are in a document. -/
private theorem foldlM_eq_none_of_gains {keys : List Text} {t t' : Entries} (hgains : Entries.Gains keys t t')
    (hno : Entries.NoArrays t) (hnowhere : LeadsNowhere keys) :
    t'.foldlM (fun c e => Config.readKey c e.1 e.2) {} = none := by
  cases hnowhere with
  | top h =>
    obtain ⟨v, hv⟩ := Option.isSome_iff_exists.1 (hgains.top _ (List.prefix_append [_] _))
    exact foldlM_eq_none_of_get? hv (fun c => Config.readKey_eq_none h c v) _
  | search h =>
    obtain ⟨o, inner, hinner, hkey⟩ := hgains.below _ _ (List.prefix_append [_, _] _) hno
    refine foldlM_eq_none_of_get? hinner (fun c => ?_) _
    exact Option.map_eq_none_iff.2 (record?_eq_none SearchSettings.readBy_settings h hkey)
  | walk h =>
    obtain ⟨o, inner, hinner, hkey⟩ := hgains.below _ _ (List.prefix_append [_, _] _) hno
    refine foldlM_eq_none_of_get? hinner (fun c => ?_) _
    exact Option.map_eq_none_iff.2 (record?_eq_none WalkSettings.readBy_settings h hkey)

/-- Behind lines that are read, keys that lead to no setting are refused. -/
private theorem foldlM_eq_none_of_build? {sts more : List Statement} {st : Statement} {lines : Text} {keys : List Text}
    {t : Entries} (hlines : SpellsLines sts lines) (hkeys : keys <+: st.namesFrom (placeAfter [] sts))
    (hnowhere : LeadsNowhere keys) (h : build? [] [] (sts ++ st :: more) = some t) :
    t.foldlM (fun c e => Config.readKey c e.1 e.2) {} = none := by
  rw [build?_append] at h
  obtain ⟨t₁, h₁, h⟩ := Option.bind_eq_some_iff.1 h
  have hno : Entries.NoArrays t₁ := noArrays_of_build? hlines.exists_spellsStatement h₁ fun _ _ => nofun
  exact foldlM_eq_none_of_gains ((gains_of_build? h).mono hkeys) hno hnowhere

/-- A document with an unknown key is refused. -/
theorem HasUnknownKey.parse? {document : Text} (h : HasUnknownKey document) : Config.parse? document = none := by
  -- reading fails, or there is a table in which the key is found
  suffices htables : ∀ t, Toml.parse? document = some t → t.foldlM (fun c e => Config.readKey c e.1 e.2) {} = none from
    Option.bind_eq_none_iff.2 htables
  intro t ht
  cases h with
  | assignment hlines hgap hkeys hrest hnowhere =>
    obtain ⟨fuel, -, heq⟩ := parse?_lines_append hlines (hgap.unmarked_append hkeys.unmarked_append)
    obtain ⟨more, hmore, hbuild⟩ := Option.bind_eq_some_iff.1 (heq.symm.trans ht)
    obtain ⟨st, more, rfl, hnames⟩ := exists_assignment_of_statements? hgap hkeys hrest hmore
    exact foldlM_eq_none_of_build? hlines (hnames _) hnowhere hbuild
  | @header sts lines gap bracket spaces written rest keys hlines hgap hbracket hspaces hkeys hrest hnowhere =>
    have hunmarked : Unmarked (bracket ++ (spaces ++ (written ++ rest))) := by
      simp only [List.mem_cons, List.not_mem_nil, or_false] at hbracket
      rcases hbracket with rfl | rfl <;> exact fun heq => absurd (Option.some.inj heq) (by decide)
    obtain ⟨fuel, -, heq⟩ := parse?_lines_append hlines (hgap.unmarked_append hunmarked)
    obtain ⟨more, hmore, hbuild⟩ := Option.bind_eq_some_iff.1 (heq.symm.trans ht)
    obtain ⟨st, more, rfl, hnames⟩ := exists_header_of_statements? hgap hbracket hspaces hkeys hrest hmore
    exact foldlM_eq_none_of_build? hlines (hnames _) hnowhere hbuild

/-- The settings that a document makes are read from it, whichever they are and in whatever order and spelling, and the
others are left to their defaults.  A document with a key that leads to no setting is refused, wherever the key
stands. -/
theorem Config.ofContent_of_choice (path : Path) :
    (∀ g : ConfigChoice, (∃ sts, g.Arranges sts) ∧ ∀ sts, g.Arranges sts →
      (∃ document, SpellsDocument sts document) ∧
        ∀ document, SpellsDocument sts document → Config.ofContent path document = .ok g.config) ∧
    ∀ document, HasUnknownKey document →
      ∃ reason, Config.ofContent path document = .error (.invalidConfig path reason) := by
  refine ⟨fun g => ⟨?_, fun sts hsts => ⟨hsts.exists_spellsDocument, fun document hdocument => ?_⟩⟩, ?_⟩
  · exact ⟨_, _, _, .inl ⟨_, .refl _, rfl⟩, .inl ⟨_, .refl _, rfl⟩, .inl rfl⟩
  · rw [Config.ofContent, hsts.parse? hdocument]
  · intro document hunknown
    refine ⟨"TOML parse error".toList, ?_⟩
    rw [Config.ofContent, hunknown.parse?]

/-- The section of the walk comes first, a comment stands behind its setting, and the further key stands in the other
section. -/
theorem Config.ofContent_of_choice_added_key :
    let path : Path := bytes "findit.toml"
    let g : ConfigChoice := ⟨none, some true, none, none, none, none, some 4⟩
    let sts : List Statement :=
      [.header [] "walk".toList, .assignment [] "max_depth".toList (.integer 4),
        .header [] "search".toList, .assignment [] "ignore_case".toList (.boolean true)]
    let document : Text := "[walk]\nmax_depth = 4 # levels\n[search]\nignore_case = true\n".toList
    let added : Text := "max_depth = 5".toList
    g.Arranges sts ∧ SpellsDocument sts document ∧ Config.ofContent path document = .ok g.config ∧
      HasUnknownKey (document ++ added) ∧
      ∃ reason, Config.ofContent path (document ++ added) = .error (.invalidConfig path reason) := by
  intro path g sts document added
  have hbare : ∀ key : Text, key ≠ [] → key.all isKeyChar = true → SpellsKey key key :=
    fun key hne hchars => .bare hne (List.all_eq_true.1 hchars)
  have hnone : IsLineRest [] := .spaces isSpaces_nil
  have hgap : IsGap [] := .spaces isSpaces_nil
  have hblank : IsSpaces [' '] := List.forall_mem_singleton.2 (by decide)
  have hcomment : IsLineRest ([' '] ++ '#' :: " levels".toList) := .comment hblank (List.all_eq_true.1 (by decide))
  have hwalk : SpellsStatement (.header [] "walk".toList) "[walk]".toList :=
    .header isSpaces_nil (hbare "walk".toList (by decide) (by decide)) isSpaces_nil
  have hfour : SpellsNatural 4 ([] ++ ['4']) :=
    .decimal List.mem_cons_self (.one (by decide)) (show number? 10 ['4'] = some 4 by decide) (by decide)
  have hdepth : SpellsStatement (.assignment [] "max_depth".toList (.integer 4)) "max_depth = 4".toList :=
    .assignment (hbare "max_depth".toList (by decide) (by decide)) hblank hblank (.natural hfour)
  have hsearch : SpellsStatement (.header [] "search".toList) "[search]".toList :=
    .header isSpaces_nil (hbare "search".toList (by decide) (by decide)) isSpaces_nil
  have hcase : SpellsStatement (.assignment [] "ignore_case".toList (.boolean true)) "ignore_case = true".toList :=
    .assignment (hbare "ignore_case".toList (by decide) (by decide)) hblank hblank .yes
  have hlines : SpellsLines sts document :=
    .cons hgap hwalk hnone .feed (.cons hgap hdepth hcomment .feed
      (.cons hgap hsearch hnone .feed (.cons hgap hcase hnone .feed .nil)))
  have hdocument : SpellsDocument sts document := .closed hlines hgap hnone
  have hsts : g.Arranges sts := ⟨_, _, .inl ⟨_, .refl _, rfl⟩, .inl ⟨_, .refl _, rfl⟩, .inr rfl⟩
  have hends : EndsKey " = 5".toList := by
    rintro c ⟨⟩
    decide
  have hunknown : HasUnknownKey (document ++ added) :=
    .assignment hlines hgap (.one (hbare "max_depth".toList (by decide) (by decide))) hends (.search (by decide))
  obtain ⟨hread, hrefused⟩ := Config.ofContent_of_choice path
  exact ⟨hsts, hdocument, ((hread g).2 sts hsts).2 document hdocument, hunknown, hrefused _ hunknown⟩

end KeywordFinder
