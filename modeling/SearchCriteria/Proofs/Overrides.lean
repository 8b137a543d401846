import SearchCriteria.Proofs.Changes
import SearchCriteria.Proofs.Levels
import SearchCriteria.Session.Step

/-! What it takes to normalise a configuration. The environment has the last word on the level, and
says so once; nothing else depends on it. A configuration that has been through this once goes
through it again unchanged and without a word, so that a run in which two parts normalise the same
configuration warns once at most. -/
namespace SearchCriteria

namespace Config
variable {env own : Option String} {c : Config}

theorem nonempty?_eq_some {s : Option String} {t : String} (some : nonempty? s = .some t) :
    t ≠ "" := by
  simpa using (Option.filter_eq_some_iff.mp some).2

theorem overridden_overridden : (c.overridden env).overridden env = c.overridden env := by
  unfold overridden
  cases nonempty? env <;> rfl

theorem overrides_overridden : overrides env (c.overridden env).logLevel = [] := by
  unfold overrides overridden
  cases level : nonempty? env with
  | none => rfl
  | some text =>
    have counts : nonempty? (some text) = some text := by
      simp [nonempty?, nonempty?_eq_some level]
    simp [counts]

/-- A second pass finds nothing to do and says nothing. -/
theorem underEnvironment_overridden :
    underEnvironment env (c.overridden env) = pure (c.overridden env) := by
  rw [underEnvironment_eq, overrides_overridden, overridden_overridden]
  rfl

/-- Two levels that count and are not the same. -/
def Differ (env own : Option String) : Prop :=
  ∃ level other, nonempty? env = some level ∧ nonempty? own = some other ∧ other ≠ level

theorem overrides_of_differ (differ : Differ env own) :
    ∃ text, overrides env own = [⟨.warning, .ok text⟩] := by
  obtain ⟨level, other, one, two, apart⟩ := differ
  unfold overrides
  rw [one, two]
  exact ⟨_, if_neg apart⟩

theorem overrides_of_not_differ (same : ¬ Differ env own) : overrides env own = [] := by
  unfold overrides
  split
  · rename_i level other one two
    by_contra said
    exact same ⟨level, other, one, two, fun same => said (if_pos same)⟩
  · rfl

theorem length_overrides_le : (overrides env own).length ≤ 1 := by
  by_cases differ : Differ env own
  · obtain ⟨text, said⟩ := overrides_of_differ differ
    rw [said]
    exact Nat.le_refl 1
  · rw [overrides_of_not_differ differ]
    exact Nat.zero_le 1

theorem warning_of_mem_overrides : ∀ e ∈ overrides env own, e.severity = .warning :=
  forall_overrides (fun _ => rfl) env own

end Config

theorem Transcript.append_empty (t : Transcript) : t ++ Transcript.empty = t := by
  change Transcript.append t .empty = t
  simp [Transcript.append, Transcript.empty]

namespace Logger
variable {α : Type} {l : Logger}

/-- What comes out of a logger for events. -/
def written (l : Logger) (events : List Event) : Transcript :=
  (l.record (⟨events, .ok ()⟩ : Traced Unit)).1

theorem record_fst (t : Traced α) : (l.record t).1 = l.written t.events := by
  unfold written record
  cases l.streaming <;> rfl

theorem written_nil : l.written [] = .empty := by
  unfold written record
  cases l.streaming <;> rfl

end Logger

namespace Session
variable {α : Type} {s : Session} {source : Object} {own c : Config}

/-- The configuration that an object describes, before the environment is asked. -/
def described? (s : Session) : Object → Except Failure Config
  | .value v _ => Config.ofValue? v
  | .handle (.config i) => .ok (s.config i)
  | .handle _ => .error (.config .notMap)

/-- A session that has put out events. -/
def told (s : Session) (events : List Event) : Session :=
  { s with output := s.output ++ s.logger.written events }

@[simp] theorem told_nil : s.told [] = s := by
  rw [told, Logger.written_nil, Transcript.append_empty]

theorem on_traced (t : Traced α) :
    Changes.on (Run.traced t) s = ((s.logger.record t).2, s.told t.events) := by
  rw [told, ← Logger.record_fst]
  unfold Run.traced
  rw [Changes.on_bind_ok Changes.on_get]
  cases made : s.logger.record t with
  | mk w r => cases r <;> rfl

theorem on_underEnvironment (s : Session) (c : Config) :
    Changes.on (Run.traced (Config.underEnvironment s.environment c)) s =
      (.ok (c.overridden s.environment), s.told (Config.overrides s.environment c.logLevel)) := by
  rw [on_traced, Logger.record_snd (Logger.tells_of_worded (Config.worded_underEnvironment _ _)),
    Config.underEnvironment_eq]

theorem on_refused (s : Session) (f : Failure) (g : α → Traced Config) :
    Changes.on (Run.traced (Traced.ofExcept (.error f) >>= g)) s = (.error f, s) := by
  have silent : (Traced.ofExcept (.error f) >>= g) = Traced.ofExcept (.error f) := rfl
  rw [silent, on_traced, Logger.record_snd (Logger.tells_of_worded (Traced.worded_ofExcept _))]
  exact congrArg (Prod.mk _) told_nil

/-- Normalising a configuration puts out what is said of its level, and changes nothing else. What
describes no configuration is refused. -/
theorem on_parseConfig (s : Session) (source : Object) : Changes.on (Run.parseConfig source) s =
    match s.described? source with
    | .ok own => (.ok (own.overridden s.environment),
        s.told (Config.overrides s.environment own.logLevel))
    | .error f => (.error f, s) := by
  cases source with
  | value v origin =>
    change Changes.on (Run.traced (Traced.ofExcept (Config.ofValue? v) >>=
      Config.underEnvironment s.environment)) s = match Config.ofValue? v with
        | .ok own => _
        | .error f => _
    cases Config.ofValue? v with
    | ok own => exact on_underEnvironment s own
    | error f => exact on_refused s f _
  | handle h =>
    cases h with
    | config i => exact on_underEnvironment s (s.config i)
    | node | query | search | compiler => rfl

theorem on_newConfig (s : Session) (c : Config) : Changes.on (Run.newConfig c) s =
    (.ok (.config s.configs.size), { s with configs := s.configs.push c }) := rfl

/-- What a configuration has in common with another one is noted, and nothing else is changed. -/
theorem on_holdConfig (s : Session) (c : Config) (source : Object) (copy : Handle) :
    ∃ held, Changes.on (Run.holdConfig c source copy) s = (.ok (), { s with held }) := by
  unfold Run.holdConfig
  split <;> exact ⟨_, rfl⟩

theorem on_configure_refused {f : Failure} (refused : s.described? source = .error f) :
    Changes.on (Run.configure source) s = (.error f, s) := by
  have parsed := on_parseConfig s source
  rw [refused] at parsed
  exact Changes.on_bind_error parsed

/-- A normal configuration is a new one, next to those that there are. -/
theorem on_configure (described : s.described? source = .ok own) :
    ∃ held, Changes.on (Run.configure source) s = (.ok (.handle (.config s.configs.size)),
      { s.told (Config.overrides s.environment own.logLevel) with
        configs := s.configs.push (own.overridden s.environment), held }) := by
  let c := own.overridden s.environment
  let t := s.told (Config.overrides s.environment own.logLevel)
  obtain ⟨held, noted⟩ := on_holdConfig { t with configs := t.configs.push c } c source
    (.config t.configs.size)
  have parsed := on_parseConfig s source
  rw [described] at parsed
  refine ⟨held, ?_⟩
  unfold Run.configure
  rw [Changes.on_bind_ok parsed, Changes.on_bind_ok (on_newConfig t c), Changes.on_bind_ok noted]
  rfl

/-- A configuration that is normal is normalised to an equal one, without a word. -/
theorem on_configure_normal {i : Nat} (normal : s.config i = c.overridden s.environment) :
    ∃ held, Changes.on (Run.configure (.handle (.config i))) s =
      (.ok (.handle (.config s.configs.size)),
        { s with configs := s.configs.push (s.config i), held }) := by
  have described : s.described? (.handle (.config i)) = .ok (s.config i) := rfl
  obtain ⟨held, done⟩ := on_configure described
  rw [normal, Config.overrides_overridden, told_nil, Config.overridden_overridden, ← normal] at done
  exact ⟨held, done⟩

theorem config_push {t : Session} (pushed : t.configs = s.configs.push c) (i : Nat) :
    t.config i = if i = s.configs.size then c else s.config i := by
  unfold config
  rw [pushed, getD_push]

/-- A session in which one configuration has been made of another one, next to those that there
were, and events have been put out. -/
structure Configured (own : Config) (events : List Event) (s t : Session) : Prop where
  level : (t.config s.configs.size).logLevel = (Config.nonempty? s.environment).or own.logLevel
  flag : (t.config s.configs.size).analyzeWildcard = own.analyzeWildcard
  aliases : (t.config s.configs.size).fieldAliases = own.fieldAliases
  kept (i : ConfigId) : i < s.configs.size → t.config i = s.config i
  output : t.output = s.output ++ s.logger.written events

theorem exists_configured (described : s.described? source = .ok own) :
    ∃ t, Changes.on (Run.configure source) s = (.ok (.handle (.config s.configs.size)), t) ∧
      Configured own (Config.overrides s.environment own.logLevel) s t ∧
      ∃ u, Changes.on (Run.configure (.handle (.config s.configs.size))) t =
          (.ok (.handle (.config (s.configs.size + 1))), u) ∧
        u.config (s.configs.size + 1) = t.config s.configs.size ∧ u.output = t.output := by
  obtain ⟨held, done⟩ := on_configure described
  let c := own.overridden s.environment
  let t : Session := { s.told (Config.overrides s.environment own.logLevel) with
    configs := s.configs.push c, held }
  have configs (i : Nat) : t.config i = if i = s.configs.size then c else s.config i :=
    config_push rfl i
  have new : t.config s.configs.size = c := by rw [configs, if_pos rfl]
  have size : t.configs.size = s.configs.size + 1 := Array.size_push c
  obtain ⟨held', again⟩ := on_configure_normal (s := t) new
  rw [size] at again
  refine ⟨t, done, ⟨?_, ?_, ?_, fun i old => ?_, rfl⟩, _, again, ?_, rfl⟩
  · rw [new]
    rfl
  · rw [new]
    rfl
  · rw [new]
    rfl
  · rw [configs, if_neg (Nat.ne_of_lt old)]
  · rw [config_push rfl, size, if_pos rfl]

end Session

theorem Traced.ofExcept_bind {α β γ : Type} (a : Except Failure α) (f : α → Except Failure β)
    (g : β → Traced γ) :
    ofExcept (a >>= f) >>= g = ofExcept a >>= fun x => ofExcept (f x) >>= g := by
  cases a <;> rfl

namespace CommandLine
variable {env : Option String} {loader : Loader} {o : Options} {own c : Config}

/-- The configuration that a run is given, before the environment is asked. -/
def givenConfig? (loader : Loader) : Option (Given String) → Except Failure Config
  | none => .ok .default
  | some (.value path) => do
    let v ← Document.load? loader .config path
    Config.ofValue? (Config.entriesOf? v)
  | some .emptied => .error (.kind (.notPath emptiedKind))

theorem loadConfig_eq (env : Option String) (loader : Loader) (given : Option (Given String)) :
    loadConfig env loader given =
      Traced.ofExcept (givenConfig? loader given) >>= Config.underEnvironment env := by
  unfold givenConfig?
  split
  · rfl
  · rw [Traced.ofExcept_bind]
    rfl
  · rfl

theorem loadConfig_of_given (given : givenConfig? loader o.config = .ok own) :
    loadConfig env loader o.config =
      ⟨Config.overrides env own.logLevel, .ok (own.overridden env)⟩ := by
  rw [loadConfig_eq, given, ← Config.underEnvironment_eq]
  rfl

theorem compileDocument_overridden (v : Value) : compileDocument env (c.overridden env) v = (do
    let chain ← Traced.ofExcept (Chain.ofPlain? v)
    (Compiler.ofConfig (c.overridden env)).compile (chain.getLastD default) chain) := by
  unfold compileDocument
  rw [Config.underEnvironment_overridden]
  rfl

/-- With a configuration that is normal a run has nothing to warn about. -/
theorem debug_of_printDocument :
    ∀ e ∈ (printDocument env loader o (c.overridden env)).events, e.severity = .debug := by
  apply forall_events_printDocument
  · rw [Config.overrides_overridden]
    exact nofun
  · exact fun text => List.forall_mem_singleton.mpr rfl
  · exact fun v text => List.forall_mem_singleton.mpr rfl

theorem loadConfig_of_refused {f : Failure} (refused : givenConfig? loader o.config = .error f) :
    loadConfig env loader o.config = ⟨[], .error f⟩ := by
  rw [loadConfig_eq, refused]
  rfl

/-- All that a run warns about is what it is told of the level when it loads its configuration. -/
theorem warnings_of_run (given : givenConfig? loader o.config = .ok own) :
    ((loadConfig env loader o.config).events ++
      (printDocument env loader o (own.overridden env)).events).filter
        (fun e => e.severity = .warning) = Config.overrides env own.logLevel := by
  have kept : (Config.overrides env own.logLevel).filter (fun e => e.severity = .warning) =
      Config.overrides env own.logLevel := by
    rw [List.filter_eq_self]
    exact fun e member => decide_eq_true (Config.warning_of_mem_overrides e member)
  have quiet : (printDocument env loader o (own.overridden env)).events.filter
      (fun e => e.severity = .warning) = [] := by
    rw [List.filter_eq_nil_iff]
    intro e member
    simp [debug_of_printDocument e member]
  rw [loadConfig_of_given given, List.filter_append, kept, quiet, List.append_nil]

end CommandLine

/-- How configurations are normalised under an environment. What describes one is left as it is, and
so is every other configuration. The new one has the level of the environment if that counts, and
all else of what it is made of. One warning is put out when the two levels differ, and nothing else.
Normalising the new one again gives an equal one without a word. So a run warns of its level once at
most, when it loads its configuration, and compiles with the configuration as it was loaded,
whatever its documents are read by. -/
theorem Config.normalised_once (env : Option String) :
    (∀ (s : Session) (source : Object), s.environment = env →
      let new := s.configs.size
      (∀ f, s.described? source = .error f →
        Changes.on (Session.Run.configure source) s = (.error f, s)) ∧
      ∀ own, s.described? source = .ok own →
        ∃ t events, Changes.on (Session.Run.configure source) s = (.ok (.handle (.config new)), t) ∧
          Session.Configured own events s t ∧
          (Differ env own.logLevel → ∃ text, events = [⟨.warning, .ok text⟩]) ∧
          (¬ Differ env own.logLevel → events = []) ∧
          ∃ u, Changes.on (Session.Run.configure (.handle (.config new))) t =
              (.ok (.handle (.config (new + 1))), u) ∧
            u.config (new + 1) = t.config new ∧ u.output = t.output) ∧
    ∀ (loader : Loader) (o : CommandLine.Options),
      (∀ f, CommandLine.givenConfig? loader o.config = .error f →
        CommandLine.loadConfig env loader o.config = ⟨[], .error f⟩) ∧
      ∀ own, CommandLine.givenConfig? loader o.config = .ok own →
        ∃ c, (CommandLine.loadConfig env loader o.config).result = .ok c ∧
          (∀ v, CommandLine.compileDocument env c v = (do
            let chain ← Traced.ofExcept (Chain.ofPlain? v)
            (Compiler.ofConfig c).compile (chain.getLastD Inhabited.default) chain)) ∧
          (((CommandLine.loadConfig env loader o.config).events ++
            (CommandLine.printDocument env loader o c).events).filter
              (fun e => e.severity = .warning)).length ≤ 1 := by
  constructor
  · rintro s source rfl new
    refine ⟨fun f => Session.on_configure_refused, fun own described => ?_⟩
    obtain ⟨t, done, configured, twice⟩ := Session.exists_configured described
    exact ⟨t, _, done, configured, overrides_of_differ, overrides_of_not_differ, twice⟩
  · intro loader o
    refine ⟨fun f => CommandLine.loadConfig_of_refused, fun own given => ?_⟩
    refine ⟨own.overridden env, ?_, CommandLine.compileDocument_overridden, ?_⟩
    · rw [CommandLine.loadConfig_of_given given]
    · rw [CommandLine.warnings_of_run given]
      exact length_overrides_le

/-- A configuration at a level that the environment replaces, and a run that is given none. -/
theorem Config.normalised_once_sample :
    let own : Config := ⟨.bool false, [], some "DEBUG"⟩
    let s : Session := { Session.start (some "INFO") with configs := #[own] }
    let loader := Loader.ofFiles (CommandLine.filesOf "\"type\"" "\"inn\"")
    s.described? (.handle (.config 0)) = .ok own ∧
      CommandLine.givenConfig? loader none = .ok .default ∧
      (∃ t text, Changes.on (Session.Run.configure (.handle (.config 0))) s =
          (.ok (.handle (.config 1)), t) ∧ (t.config 1).logLevel = some "INFO" ∧
        t.output = s.output ++ s.logger.written [⟨.warning, .ok text⟩]) ∧
      ∃ c, (CommandLine.loadConfig (some "INFO") loader none).result = .ok c ∧
        c.logLevel = some "INFO" := by
  intro own s loader
  obtain ⟨sessions, runs⟩ := Config.normalised_once (some "INFO")
  obtain ⟨_, normal⟩ := sessions s (.handle (.config 0)) rfl
  obtain ⟨t, events, done, configured, differ, _⟩ := normal own rfl
  obtain ⟨text, rfl⟩ := differ ⟨"INFO", "DEBUG", rfl, rfl, by decide⟩
  obtain ⟨_, loaded⟩ := runs loader ⟨"chain.json", none, none, none⟩
  obtain ⟨c, made, _⟩ := loaded .default rfl
  refine ⟨rfl, rfl, ⟨t, text, done, configured.level, configured.output⟩, c, made, ?_⟩
  cases made
  rfl

end SearchCriteria
