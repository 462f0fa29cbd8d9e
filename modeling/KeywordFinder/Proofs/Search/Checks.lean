import KeywordFinder.Search

/-!
# The checks of a search

A search checks its keyword, its path, its configuration and its pattern.  What a check objects to is said for each
check on its own (`Search.Rejects`), and the first check in their order that objects to something ends the search
before anything is walked (`Search.run_cases`).
-/

namespace KeywordFinder

/-- The checks of a search. -/
inductive Check where
  | keyword
  | path
  | config
  | pattern
deriving DecidableEq, Repr

/-- The checks in the order in which a search makes them. -/
def Check.all : List Check := [keyword, path, config, pattern]

theorem Role.ordered_ne_nil (selection : List Role) : ordered selection ≠ [] := by
  have hmem : ∃ r, r ∈ ordered selection := by
    cases selection with
    | nil => exact ⟨.classDecl, mem_ordered.2 (.inl rfl)⟩
    | cons r rest => exact ⟨r, mem_ordered.2 (.inr List.mem_cons_self)⟩
  obtain ⟨r, hr⟩ := hmem
  exact List.ne_nil_of_mem hr

/-- A configuration that cannot be loaded is an error, and no fault of the output. -/
theorem Config.load_error {fs : FileSystem} {p : Path} {f : Failure} (h : Config.load fs p = .error f) :
    f.status = .error ∧ f.isBrokenPipe = false := by
  rw [Config.load] at h
  split at h
  · cases h
    exact ⟨rfl, rfl⟩
  · split at h
    · cases h
      exact ⟨rfl, rfl⟩
    · rw [Config.ofContent] at h
      split at h
      · cases h
      · cases h
        exact ⟨rfl, rfl⟩

namespace Search

variable {env : Environment} {o : Options}

/-! ### What the checks object to -/

/-- The configuration of a search: the one that is named or found, if it can be loaded, and the default if none is
named or found. -/
def HasConfig (env : Environment) (o : Options) (c : Config) : Prop :=
  configPath? env o = none ∧ c = {} ∨ ∃ p, configPath? env o = some p ∧ Config.load env.files p = .ok c

/-- The keyword as a search looks for it. -/
def soughtKeyword (o : Options) (c : Config) : Keyword := ⟨o.keyword, o.has .ignoreCase || c.search.ignoreCase⟩

/-- What a check objects to, whatever the checks before it say.  Only a configuration that can be loaded tells which
pattern there is to check. -/
inductive Rejects (env : Environment) (o : Options) : Check → SearchFailure → Prop
  | keyword {p : KeywordProblem} (h : keywordProblem? o.keyword = some p) :
      Rejects env o .keyword ⟨.invalidKeyword o.keyword p, []⟩
  | path (h : env.files.pathExists o.path = false) : Rejects env o .path ⟨.missingPath o.path, []⟩
  | config {p : Path} {f : Failure} (hpath : configPath? env o = some p) (h : Config.load env.files p = .error f) :
      Rejects env o .config ⟨f, if o.config.isSome then "loading --config ".toList ++ decodeLossy p else []⟩
  | pattern {c : Config} {r : Role} (hconfig : HasConfig env o c) (hrole : (Role.ordered o.roles).head? = some r)
      (h : Matcher.build? (soughtKeyword o c) o.roles = none) :
      Rejects env o .pattern ⟨.oversizedKeyword r o.keyword, []⟩

/-- Whether a check objects to nothing. -/
def Passes (env : Environment) (o : Options) (c : Check) : Prop := ∀ f, ¬ Rejects env o c f

/-- What the first check that objects to something objects to. -/
def FirstRejection (env : Environment) (o : Options) (c : Check) (f : SearchFailure) : Prop :=
  Rejects env o c f ∧ ∃ before after, Check.all = before ++ c :: after ∧ ∀ c' ∈ before, Passes env o c'

/-- Only a keyword is a matter of usage, and no check has to do with the output. -/
theorem Rejects.failure {c : Check} {f : SearchFailure} (h : Rejects env o c f) :
    f.failure.status = (if c = .keyword then .usage else .error) ∧ f.failure.isBrokenPipe = false := by
  cases h with
  | keyword => exact ⟨rfl, rfl⟩
  | path => exact ⟨rfl, rfl⟩
  | config _ hload => exact Config.load_error hload
  | pattern => exact ⟨rfl, rfl⟩

theorem HasConfig.unique {c c' : Config} (h : HasConfig env o c) (h' : HasConfig env o c') : c = c' := by
  rcases h with ⟨hnone, rfl⟩ | ⟨p, hpath, hload⟩ <;> rcases h' with ⟨hnone', rfl⟩ | ⟨p', hpath', hload'⟩
  · rfl
  · rw [hnone] at hpath'
    cases hpath'
  · rw [hpath] at hnone'
    cases hnone'
  · rw [hpath] at hpath'
    cases hpath'
    rw [hload] at hload'
    cases hload'
    rfl

/-! ### One check after the other -/

private theorem checkTarget_cases (env : Environment) (o : Options) :
    (∃ c f, FirstRejection env o c f ∧ checkTarget env o = .error f) ∨
      Passes env o .keyword ∧ Passes env o .path ∧ checkTarget env o = .ok () := by
  rw [checkTarget, checkKeyword]
  cases hkeyword : keywordProblem? o.keyword with
  | some p => exact .inl ⟨.keyword, _, ⟨.keyword hkeyword, [], _, rfl, by simp⟩, rfl⟩
  | none =>
    have hpasses : Passes env o .keyword := by
      rintro f (h | _)
      rw [hkeyword] at h
      cases h
    cases hpath : env.files.pathExists o.path with
    | false => exact .inl ⟨.path, _, ⟨.path hpath, [.keyword], _, rfl, by simpa using hpasses⟩, rfl⟩
    | true =>
      refine .inr ⟨hpasses, ?_, rfl⟩
      rintro f (_ | h)
      rw [hpath] at h
      cases h

private theorem loadConfig_cases (env : Environment) (o : Options) :
    (∃ f, Rejects env o .config f ∧ loadConfig env o = .error f) ∨
      Passes env o .config ∧ ∃ c log, HasConfig env o c ∧ loadConfig env o = .ok (c, log) := by
  rw [loadConfig]
  cases hpath : configPath? env o with
  | none =>
    refine .inr ⟨?_, _, _, ?_, rfl⟩
    · rintro f (_ | _ | hpath')
      rw [hpath] at hpath'
      cases hpath'
    · exact .inl ⟨hpath, rfl⟩
  | some p =>
    dsimp only
    cases hload : Config.load env.files p with
    | error f => exact .inl ⟨_, .config hpath hload, rfl⟩
    | ok c =>
      refine .inr ⟨?_, c, _, .inr ⟨p, hpath, hload⟩, rfl⟩
      rintro f (_ | _ | ⟨hpath', hload'⟩)
      rw [hpath] at hpath'
      cases hpath'
      rw [hload] at hload'
      cases hload'

/-- The plan of a search with its configuration. -/
def planOf (env : Environment) (o : Options) (c : Config) : SearchPlan where
  scanner := ⟨⟨soughtKeyword o c, Role.ordered o.roles⟩,
    .ofDecision ((o.colorMode c.search.color).isOn env.declinesColor env.isTerminal), env.sink⟩
  path := o.path
  walk := c.walkOptions o.extensions o.excludes

private theorem plan_cases {c : Config} (hconfig : HasConfig env o c) :
    (∃ f, Rejects env o .pattern f ∧ ∀ sink, plan { env with sink } o c = .error f) ∨
      Passes env o .pattern ∧ ∀ sink, plan { env with sink } o c = .ok (planOf { env with sink } o c) := by
  cases hbuild : Matcher.build? (soughtKeyword o c) o.roles with
  | none =>
    have hrole : (Role.ordered o.roles).head? = some ((Role.ordered o.roles).head?.getD .classDecl) := by
      cases hr : Role.ordered o.roles with
      | nil => exact absurd hr (Role.ordered_ne_nil _)
      | cons r rest => rfl
    refine .inl ⟨_, .pattern hconfig hrole hbuild, fun sink => ?_⟩
    rw [soughtKeyword] at hbuild
    simp only [plan, hbuild]
  | some m =>
    refine .inr ⟨?_, fun sink => ?_⟩
    · rintro f (_ | _ | _ | ⟨hconfig', -, hbuild'⟩)
      rw [hconfig'.unique hconfig, hbuild] at hbuild'
      cases hbuild'
    · have hm : m = ⟨soughtKeyword o c, Role.ordered o.roles⟩ := by
        rw [Matcher.build?] at hbuild
        split at hbuild
        · cases hbuild
          rfl
        · cases hbuild
      rw [soughtKeyword] at hbuild
      simp only [plan, hbuild, hm]
      rfl

private theorem checkTarget_of_sink (sink : Sink) : checkTarget { env with sink } o = checkTarget env o := rfl

private theorem loadConfig_of_sink (sink : Sink) : loadConfig { env with sink } o = loadConfig env o := rfl

/-- A search ends at the first check that objects to something, whatever the output is, and if there is none it walks
and scans. -/
theorem run_cases (env : Environment) (o : Options) :
    (∃ c f log, FirstRejection env o c f ∧ ∀ sink, run { env with sink } o = { log, outcome := .error f }) ∨
      (∀ c, Passes env o c) ∧ ∃ config log, HasConfig env o config ∧
        ∀ sink, run { env with sink } o = execute env (planOf { env with sink } o config) log := by
  rcases checkTarget_cases env o with ⟨c, f, hfirst, hcheck⟩ | ⟨hkeyword, hpath, hcheck⟩
  · refine .inl ⟨c, f, [], hfirst, fun sink => ?_⟩
    rw [run, checkTarget_of_sink, hcheck]
  rcases loadConfig_cases env o with ⟨f, hrejects, hload⟩ | ⟨hloads, c, log, hconfig, hload⟩
  · refine .inl ⟨.config, f, [], ⟨hrejects, [.keyword, .path], _, rfl, by simp [hkeyword, hpath]⟩, fun sink => ?_⟩
    simp only [run, checkTarget_of_sink, hcheck, loadConfig_of_sink, hload]
  rcases plan_cases hconfig with ⟨f, hrejects, hplan⟩ | ⟨hpattern, hplan⟩
  · refine .inl ⟨.pattern, f, log,
      ⟨hrejects, [.keyword, .path, .config], _, rfl, by simp [hkeyword, hpath, hloads]⟩, fun sink => ?_⟩
    simp only [run, checkTarget_of_sink, hcheck, loadConfig_of_sink, hload, hplan]
  · refine .inr ⟨fun check => ?_, c, log, hconfig, fun sink => ?_⟩
    · cases check with
      | keyword => exact hkeyword
      | path => exact hpath
      | config => exact hloads
      | pattern => exact hpattern
    · simp only [run, checkTarget_of_sink, hcheck, loadConfig_of_sink, hload, hplan]
      rfl

/-- A blank keyword is reported alone, although the path is missing as well. -/
example :
    (run { files := ⟨.empty, []⟩ } ⟨[' '], bytes "gone", [], [], [], none, none⟩).outcome =
      .error ⟨.invalidKeyword [' '] .empty, []⟩ := rfl

end Search

end KeywordFinder
