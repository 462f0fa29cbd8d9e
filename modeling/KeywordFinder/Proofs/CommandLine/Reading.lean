import KeywordFinder.Proofs.CommandLine.Spelling
import KeywordFinder.Proofs.Line.Precedence

/-!
# Reading written options

An argument adds the items that it says to what is given, as long as no flag, colour mode or configuration is given
twice (`Spells.takeArgument`), and so do arguments one after the other (`SpellsAll.foldlM`).  So options are read from
all arguments that write them (`CommandLine.parse_of_writtenBy`).
-/

namespace KeywordFinder

namespace Options

variable {o : Options} {role : Role}

theorem mem_roles : role ∈ o.roles ↔ Flag.only role ∈ o.flags := by
  rw [roles, List.mem_filter, has, List.contains_iff_mem]
  exact and_iff_right (Role.mem_all role)

/-- The roles asked for stand in the order of precedence. -/
theorem pairwise_roles (o : Options) : o.roles.Pairwise fun role role' => role.rank < role'.rank :=
  (Role.pairwise_ordered []).filter _

end Options

namespace CommandLine

variable {g : Given} {i : Item} {items more : List Item}

/-! ### What items add -/

namespace Given

/-- What is given after an item. -/
def add (g : Given) : Item → Given
  | .flag f => { g with flags := g.flags ++ [f] }
  | .extension e => { g with extensions := g.extensions ++ [e] }
  | .exclude p => { g with excludes := g.excludes ++ [p] }
  | .color m => { g with color := some m }
  | .config p => { g with config := some p }

/-- Whether an item can still be said: flags, the colour mode and the configuration are given at most once, and the
configuration has a path. -/
def Admits (g : Given) : Item → Prop
  | .flag f => f ∉ g.flags
  | .color _ => g.color = none
  | .config p => g.config = none ∧ p ≠ []
  | _ => True

/-- Whether items can be said one after the other. -/
def AdmitsAll (g : Given) : List Item → Prop
  | [] => True
  | i :: more => g.Admits i ∧ (g.add i).AdmitsAll more

theorem admitsAll_append : g.AdmitsAll (items ++ more) ↔ g.AdmitsAll items ∧ (items.foldl add g).AdmitsAll more := by
  induction items generalizing g with
  | nil => simp [AdmitsAll]
  | cons i items ih => simp [AdmitsAll, ih, and_assoc]

/-- Items can be said if no flag, colour mode or configuration is given twice. -/
theorem admitsAll_of (hflags : (g.flags ++ items.filterMap Item.flag?).Nodup)
    (hcolor : (g.color.toList ++ items.filterMap Item.color?).length ≤ 1)
    (hconfig : (g.config.toList ++ items.filterMap Item.config?).length ≤ 1)
    (hpath : [] ∉ items.filterMap Item.config?) : g.AdmitsAll items := by
  induction items generalizing g with
  | nil => trivial
  | cons i items ih =>
    cases i with
    | flag f =>
      have hnew : f ∉ g.flags := fun hf => (List.nodup_append.1 hflags).2.2 f hf f List.mem_cons_self rfl
      exact ⟨hnew, ih (by simpa [add] using hflags) hcolor hconfig hpath⟩
    | extension e => exact ⟨trivial, ih hflags hcolor hconfig hpath⟩
    | exclude p => exact ⟨trivial, ih hflags hcolor hconfig hpath⟩
    | color m =>
      have hnew : g.color = none := by
        cases h : g.color with
        | none => rfl
        | some m' => simp [h] at hcolor
      exact ⟨hnew, ih hflags (by simpa [add, hnew] using hcolor) hconfig hpath⟩
    | config p =>
      have hnew : g.config = none := by
        cases h : g.config with
        | none => rfl
        | some p' => simp [h] at hconfig
      have hne : p ≠ [] := by
        rintro rfl
        exact hpath List.mem_cons_self
      exact ⟨⟨hnew, hne⟩, ih hflags hcolor (by simpa [add, hnew] using hconfig)
        fun h => hpath (List.mem_cons_of_mem p h)⟩

/-- What is given after items, each kind of them by itself. -/
theorem foldl_add : items.foldl add g = { g with
      flags := g.flags ++ items.filterMap Item.flag?
      extensions := g.extensions ++ items.filterMap Item.extension?
      excludes := g.excludes ++ items.filterMap Item.exclude?
      color := (g.color.toList ++ items.filterMap Item.color?).getLast?
      config := (g.config.toList ++ items.filterMap Item.config?).getLast? } := by
  induction items generalizing g with
  | nil => obtain ⟨_, _, _, _ | _, _ | _, _, _⟩ := g <;> simp
  | cons i items ih =>
    rw [List.foldl_cons, ih]
    cases i <;> simp [add, List.filterMap_cons, List.getLast?_cons]

end Given

/-! ### Values -/

theorem textValue_encode (t : Text) : textValue (encode t) = .ok t := by
  rw [textValue, decode?_eq_some_iff.2 rfl]

theorem colorValue_name (m : ColorMode) : colorValue (bytes m.name) = .ok m := by
  cases m <;> rfl

theorem pathValue_of_ne_nil {p : Path} (h : p ≠ []) : pathValue p = .ok p := by
  rw [pathValue, if_neg (by simpa using h)]

/-- The value of an item is taken as what the item says. -/
theorem setValue_value {s : Setting} {v : Bytes} (hvalue : i.value? = some (s, v)) (h : g.Admits i) :
    setValue g s v = .ok (g.add i) := by
  cases i with
  | flag f => cases hvalue
  | extension e =>
    cases hvalue
    rw [setValue, textValue_encode]
    rfl
  | exclude p =>
    cases hvalue
    rw [setValue, textValue_encode]
    rfl
  | color m =>
    cases hvalue
    have hnew : g.color = none := h
    rw [setValue, colorValue_name, hnew]
    rfl
  | config p =>
    cases hvalue
    rw [setValue, pathValue_of_ne_nil h.2, h.1]
    rfl

/-! ### One argument -/

/-- A flag that is not given yet is taken. -/
theorem takeSwitch_flag {f : Flag} (h : g.Admits (.flag f)) :
    takeSwitch { given := g } (.flag f) = .ok { given := g.add (.flag f) } := by
  have hnew : ¬ g.flags.contains f = true := by simpa [Given.Admits] using h
  change (if g.flags.contains f then fail .repeatedOption else _) = _
  rw [if_neg hnew]
  rfl

/-- A setting that can still be made is taken with its value. -/
theorem takeAttached_value {s : Setting} {v : Bytes} (hvalue : i.value? = some (s, v)) (h : g.Admits i) :
    takeAttached { given := g } s v = .ok { given := g.add i } := by
  change (setValue g s v >>= fun g' => pure _) = _
  rw [setValue_value hvalue h]
  rfl

/-- Letters behind one hyphen are taken one after the other. -/
theorem takeLetters_flags {l : List (Flag × Char)} (hletters : ∀ p ∈ l, (Switch.flag p.1).HasLetter p.2)
    (h : g.AdmitsAll (l.map fun p => .flag p.1)) :
    takeLetters { given := g } (encode (l.map Prod.snd)) =
      .ok { given := (l.map fun p => Item.flag p.1).foldl Given.add g } := by
  induction l generalizing g with
  | nil => rfl
  | cons p l ih =>
    obtain ⟨hletter, hletters⟩ := List.forall_mem_cons.1 hletters
    obtain ⟨b, hencode, hswitch, -⟩ := hletter.ofShort?
    rw [List.map_cons, hencode, takeLetters, hswitch]
    change (takeSwitch _ _ >>= fun st => takeLetters st _) = _
    rw [takeSwitch_flag h.1]
    exact ih hletters h.2

section Dispatch

variable {st : State} {name : String}

/-- What comes behind two hyphens is a long option. -/
private theorem takeArgument_long (hst : st.optionsEnded = false) {a : Bytes} (ha : a ≠ []) :
    takeArgument st (hyphen :: hyphen :: a) = takeLong st a := by
  obtain ⟨b, a, rfl⟩ := List.exists_cons_of_ne_nil ha
  unfold takeArgument
  rw [hst]
  rfl

/-- What comes behind one hyphen are letters. -/
private theorem takeArgument_letters (hst : st.optionsEnded = false) {b : UInt8} (hb : b ≠ hyphen) (a : Bytes) :
    takeArgument st (hyphen :: b :: a) = takeLetters st (b :: a) := by
  unfold takeArgument
  rw [hst, if_neg Bool.false_ne_true]
  -- of the four kinds of arguments, the two in front need a second hyphen
  split
  · next heq => exact absurd (List.cons.inj (List.cons.inj heq).2).1 hb
  · next name heq => exact absurd (List.cons.inj (List.cons.inj heq).2).1 hb
  · next c letters hnot heq =>
    obtain ⟨rfl, rfl⟩ := List.cons.inj (List.cons.inj heq).2
    rfl
  · next hnot => exact absurd rfl (hnot b a)

/-- Within a name no sign ends it. -/
private theorem takeWhile_name {s : Switch} (hname : s.HasName name) (rest : Bytes) :
    (bytes name ++ rest).takeWhile (· ≠ equalsSign) = bytes name ++ rest.takeWhile (· ≠ equalsSign) := by
  refine List.takeWhile_append_of_pos fun b hb => decide_eq_true ?_
  rintro rfl
  exact hname.ofLong?.2.2 hb

theorem takeArgument_name {s : Switch} (hname : s.HasName name) (hst : st.optionsEnded = false) :
    takeArgument st (hyphen :: hyphen :: bytes name) = takeSwitch st s := by
  obtain ⟨hswitch, hne, -⟩ := hname.ofLong?
  have hcut : (bytes name).takeWhile (· ≠ equalsSign) = bytes name := by
    simpa using takeWhile_name hname []
  rw [takeArgument_long hst hne, takeLong, hcut, hswitch, List.drop_length]

theorem takeArgument_value {s : Setting} (hname : (Switch.setting s).HasName name) (hst : st.optionsEnded = false)
    (v : Bytes) : takeArgument st (hyphen :: hyphen :: (bytes name ++ equalsSign :: v)) = takeAttached st s v := by
  have hne : bytes name ++ equalsSign :: v ≠ [] := List.append_ne_nil_of_right_ne_nil _ (List.cons_ne_nil _ _)
  have hcut : (bytes name ++ equalsSign :: v).takeWhile (· ≠ equalsSign) = bytes name := by
    rw [takeWhile_name hname, List.takeWhile_cons_of_neg (by simp), List.append_nil]
  rw [takeArgument_long hst hne, takeLong, hcut, hname.ofLong?.1, List.drop_left]

end Dispatch

/-- An argument adds the items that it says. -/
theorem Spells.takeArgument {argument : Bytes} (hspells : Spells items argument) (h : g.AdmitsAll items) :
    takeArgument { given := g } argument = .ok { given := items.foldl Given.add g } := by
  cases hspells with
  | name hname =>
    rw [takeArgument_name hname rfl]
    exact takeSwitch_flag h.1
  | value hvalue hname =>
    rw [takeArgument_value hname rfl]
    exact takeAttached_value hvalue h.1
  | @letters l hne hletters =>
    obtain ⟨p, l, rfl⟩ := List.exists_cons_of_ne_nil hne
    obtain ⟨b, hencode, -, hhyphen⟩ := (hletters p List.mem_cons_self).ofShort?
    rw [List.map_cons, hencode, takeArgument_letters rfl hhyphen, ← hencode]
    exact takeLetters_flags hletters h

/-! ### The whole command line -/

/-- Arguments add the items that they say. -/
theorem SpellsAll.foldlM {arguments : List Bytes} (hspells : SpellsAll items arguments) (h : g.AdmitsAll items) :
    arguments.foldlM CommandLine.takeArgument { given := g } = .ok { given := items.foldl Given.add g } := by
  -- between two arguments nothing is pending, so only what is given changes
  induction hspells generalizing g with
  | nil => rfl
  | cons hitems _ ih =>
    obtain ⟨hfirst, hmore⟩ := Given.admitsAll_append.1 h
    rw [List.foldlM_cons, hitems.takeArgument hfirst, List.foldl_append]
    exact ih hmore

/-- Behind the end of options come the keyword and the path, whatever they look like. -/
theorem finish_positionals (g : Given) (keyword : Text) {path : Path} (hpath : path ≠ []) :
    ([[hyphen, hyphen], encode keyword, path].foldlM CommandLine.takeArgument { given := g } >>= (finish · none)) =
      .ok ⟨keyword, path, g.flags, g.extensions, g.excludes, g.color, g.config⟩ := by
  let ended : State := { given := g, optionsEnded := true }
  let sought : State := { ended with pending := .keyword (encode keyword), positionals := 1 }
  let placed : State := { sought with
    given := { g with keyword := some keyword }
    pending := .path path
    positionals := 2 }
  have hend : CommandLine.takeArgument { given := g } [hyphen, hyphen] = .ok ended := rfl
  have hkeyword : CommandLine.takeArgument ended (encode keyword) = .ok sought := rfl
  have hplaced : CommandLine.takeArgument sought path = .ok placed := by
    change ((textValue (encode keyword) >>= fun t => pure { g with keyword := some t }) >>= fun g => _) = _
    rw [textValue_encode]
    rfl
  have hfinish : finish placed none = .ok ⟨keyword, path, g.flags, g.extensions, g.excludes, g.color, g.config⟩ := by
    change ((pathValue path >>= fun p => pure { placed.given with path := some p }) >>= fun g => _) = _
    rw [pathValue_of_ne_nil hpath]
    obtain ⟨flags, extensions, excludes, color, _ | p, _, _⟩ := g <;> rfl
  simp only [List.foldlM_cons, List.foldlM_nil, hend, hkeyword, hplaced, bind, Except.bind, pure, Except.pure, hfinish]

/-- All options can be written on a command line.  However they are written there, with the keyword and the path behind
the end of options, they are read from it, and the roles asked for come in the order of precedence. -/
theorem parse_of_writtenBy (o : Options) (hpath : o.path ≠ []) (hconfig : o.config ≠ some []) :
    (∃ arguments, o.WrittenBy arguments) ∧ ∀ arguments, o.WrittenBy arguments →
      ∃ read, parse (arguments ++ [[hyphen, hyphen], encode o.keyword, o.path]) none = .ok read ∧
        (∀ f, read.has f = o.has f) ∧ { read with flags := o.flags } = o ∧
        (∀ role, role ∈ read.roles ↔ Flag.only role ∈ o.flags) ∧
        read.roles.Pairwise fun role role' => role.rank < role'.rank := by
  refine ⟨exists_writtenBy o, ?_⟩
  -- the items of the arguments are read, whatever their order, and what they add up to is what the options say
  rintro arguments ⟨items, hlisted, hspells⟩
  have hadmits : ({} : Given).AdmitsAll items := by
    refine Given.admitsAll_of hlisted.once ?_ ?_ ?_
    · rw [hlisted.color]
      cases o.color <;> simp
    · rw [hlisted.config]
      cases o.config <;> simp
    · rw [hlisted.config, Option.mem_toList]
      exact hconfig
  have hgiven : items.foldl Given.add {} = {
      flags := items.filterMap Item.flag?
      extensions := o.extensions
      excludes := o.excludes
      color := o.color
      config := o.config } := by
    rw [Given.foldl_add, hlisted.extensions, hlisted.excludes, hlisted.color, hlisted.config]
    cases o.color <;> cases o.config <;> rfl
  refine ⟨{ o with flags := items.filterMap Item.flag? }, ?_, fun f => ?_, rfl, fun role => ?_, ?_⟩
  · rw [parse, List.foldlM_append, hspells.foldlM hadmits, hgiven]
    exact finish_positionals _ o.keyword hpath
  · rw [Bool.eq_iff_iff, Options.has, Options.has, List.contains_iff_mem, List.contains_iff_mem]
    exact hlisted.flags f
  · rw [Options.mem_roles]
    exact hlisted.flags (.only role)
  · exact Options.pairwise_roles _

/-- Flags with other options between them, two of them behind one hyphen and one by a second name, a value that is empty
and one with a sign in it, and texts with a hyphen in front. -/
theorem parse_of_writtenBy_bundled :
    let o : Options := {
      keyword := "--help".toList
      path := bytes "-x"
      flags := [.only .classDecl, .only .assignment, .ignoreCase, .noColor]
      extensions := [[], "-e".toList]
      excludes := ["a=b".toList]
      color := some .never
      config := some (bytes "--") }
    let arguments := ["--ext=", "-ic", "--color=never", "--no-color", "--exclude=a=b", "--assign", "--ext=-e",
      "--config=--"].map bytes
    o.path ≠ [] ∧ o.config ≠ some [] ∧ o.WrittenBy arguments ∧ (∃ arguments, o.WrittenBy arguments) ∧
      ∃ read, parse (arguments ++ [[hyphen, hyphen], encode o.keyword, o.path]) none = .ok read ∧
        (∀ f, read.has f = o.has f) ∧ { read with flags := o.flags } = o ∧
        (∀ role, role ∈ read.roles ↔ Flag.only role ∈ o.flags) ∧
        read.roles.Pairwise fun role role' => role.rank < role'.rank := by
  intro o arguments
  have hpath : o.path ≠ [] := by decide
  have hconfig : o.config ≠ some [] := by decide
  have hspells : SpellsAll _ arguments :=
    .cons (@Spells.value (.extension []) _ _ "ext" rfl (by decide)) <|
    .cons (@Spells.letters [(.ignoreCase, 'i'), (.only .classDecl, 'c')] (List.cons_ne_nil _ _) (by decide)) <|
    .cons (@Spells.value (.color .never) _ _ "color" rfl (by decide)) <|
    .cons (@Spells.name .noColor "no-color" (by decide)) <|
    .cons (@Spells.value (.exclude "a=b".toList) _ _ "exclude" rfl (by decide)) <|
    .cons (@Spells.name (.only .assignment) "assign" (by decide)) <|
    .cons (@Spells.value (.extension "-e".toList) _ _ "ext" rfl (by decide)) <|
    .cons (@Spells.value (.config (bytes "--")) _ _ "config" rfl (by decide)) .nil
  have hflags : [Flag.ignoreCase, .only .classDecl, .noColor, .only .assignment].Perm o.flags := by decide
  have hwritten : o.WrittenBy arguments :=
    ⟨_, ⟨by decide, fun f => hflags.mem_iff, rfl, rfl, rfl, rfl⟩, hspells⟩
  obtain ⟨hexists, hread⟩ := parse_of_writtenBy o hpath hconfig
  exact ⟨hpath, hconfig, hwritten, hexists, hread arguments hwritten⟩

end CommandLine

end KeywordFinder
