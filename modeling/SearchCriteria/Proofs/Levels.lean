import SearchCriteria.Proofs.Runs

/-! What the level that is named to a run has to do with its outcome: nothing, as long as the level
can be set. Whatever is named, events go to the stream, or to the surroundings where no level is
named, and a run ends in what it computes. -/
namespace SearchCriteria

namespace Traced
variable {α β : Type} {t : Traced α} {f : α → Traced β}

/-- A computation all of whose events can be put into words. -/
def Worded (t : Traced α) : Prop := ∀ e ∈ t.events, ∃ text, e.text = .ok text

theorem worded_ofExcept (r : Except Failure α) : (ofExcept r).Worded := nofun

theorem worded_bind (first : t.Worded) (next : ∀ a, (f a).Worded) : (t >>= f).Worded :=
  forall_events_bind first next

end Traced

namespace Logger
variable {α : Type} {l : Logger} {level : String}

/-- The names of levels, with their ranks. -/
def standardRanks : List (String × Nat) :=
  [("CRITICAL", 50), ("FATAL", 50), ("ERROR", 40), ("WARNING", 30), ("WARN", 30), ("INFO", 20),
    ("DEBUG", 10), ("NOTSET", 0)]

/-- A name that is found where levels are looked up and stands for something else. -/
def Misnamed (level : String) : Prop :=
  capitalized level = "BASIC_FORMAT" ∨ capitalized level = "_STYLES"

instance : Decidable (Misnamed level) := inferInstanceAs (Decidable (_ ∨ _))

theorem lookup_rank (ranks : List (String × Nat)) (name : String) :
    (ranks.map fun r => (r.1, LevelName.rank r.2)).lookup name =
      (ranks.lookup name).map LevelName.rank := by
  induction ranks with
  | nil => rfl
  | cons r ranks ih =>
    rw [List.map_cons, List.lookup_cons, List.lookup_cons, ih]
    cases name == r.1 <;> rfl

theorem levelNamed_of_not_misnamed (known : ¬ Misnamed level) :
    levelNamed level = .rank ((standardRanks.lookup (capitalized level)).getD 20) := by
  have names : levelNames = standardRanks.map (fun r => (r.1, LevelName.rank r.2)) ++
      [("BASIC_FORMAT", .format), ("_STYLES", .styles)] := rfl
  obtain ⟨format, styles⟩ := not_or.mp known
  have other : [("BASIC_FORMAT", LevelName.format), ("_STYLES", .styles)].lookup
      (capitalized level) = none := by
    rw [List.lookup_cons, beq_eq_false_iff_ne.mpr format, List.lookup_cons,
      beq_eq_false_iff_ne.mpr styles, List.lookup_nil]
  rw [levelNamed, names, List.lookup_append, lookup_rank, other, Option.or_none]
  cases standardRanks.lookup (capitalized level) <;> rfl

theorem levelOf?_text (level : String) : levelOf? (.text level) = .ok (levelNamed level) := by
  by_cases empty : level = ""
  · subst empty
    rfl
  · have counts : (Value.text level).truthy = true := by simpa [Value.truthy] using empty
    rw [levelOf?, counts]
    rfl

/-- A text sets the level that it names, and the standard one where it names none. Only the two
names of something else are refused, when the stream is in place and the level is not. -/
theorem configure_text (l : Logger) (level : String) :
    (¬ Misnamed level → l.configure (.text level) =
      (⟨(standardRanks.lookup (capitalized level)).getD 20, true⟩, .ok ())) ∧
    (Misnamed level →
      ∃ f, l.configure (.text level) = ({ l with streaming := true }, .error f)) := by
  rw [configure, levelOf?_text]
  constructor
  · intro known
    rw [levelNamed_of_not_misnamed known]
  · rintro (format | styles)
    · rw [levelNamed, format]
      exact ⟨_, rfl⟩
    · rw [levelNamed, styles]
      exact ⟨_, rfl⟩

theorem handOver_snd {events : List Event}
    (worded : ∀ e ∈ events, ∃ text, e.text = .ok text) : (handOver events).2 = .ok () := by
  induction events with
  | nil => rfl
  | cons e events ih =>
    rw [List.forall_mem_cons] at worded
    obtain ⟨⟨text, said⟩, later⟩ := worded
    rw [handOver, said]
    exact ih later

/-- A logger that gets by on what a computation reports: it has a stream, where what has no words
is left out, or hands over nothing but what has. -/
def Tells (l : Logger) (t : Traced α) : Prop :=
  l.streaming = false → ∀ e ∈ t.events, l.passes e = true → ∃ text, e.text = .ok text

theorem tells_of_worded {t : Traced α} (worded : t.Worded) : l.Tells t :=
  fun _ e member _ => worded e member

/-- Such a logger does not change what the computation comes to. -/
theorem record_snd {t : Traced α} (tells : l.Tells t) : (l.record t).2 = t.result := by
  cases streaming : l.streaming with
  | true => rw [record, streaming, if_pos rfl]
  | false =>
    have whole : (handOver (t.events.filter l.passes)).2 = .ok () := by
      refine handOver_snd fun e member => ?_
      rw [List.mem_filter] at member
      exact tells streaming e member.1 member.2
    rw [record, streaming, if_neg Bool.false_ne_true]
    change (handOver (t.events.filter l.passes)).2.bind (fun _ => t.result) = t.result
    rw [whole]
    rfl

end Logger

namespace Config
variable {c d : Config} {v w : Value} {es fs : Entries} {environment environment' : Option String}

/-- A configuration without its level. -/
def unlevelled (c : Config) : Config := { c with logLevel := none }

/-- The entries of a document of a configuration; what counts as nothing has none. -/
def entriesOf? (v : Value) : Value := if v.truthy then v else .map []

/-- A level that a document may give: none, or a text. -/
def GivesLevel (es : Entries) : Prop :=
  Entries.under "log_level" es = .null ∨ ∃ level, Entries.under "log_level" es = .text level

/-- Documents of configurations that say the same but for the level, which each of them gives as a
text if at all. -/
def SameButLevel (v w : Value) : Prop :=
  v = w ∨ ∃ es fs, entriesOf? v = .map es ∧ entriesOf? w = .map fs ∧
    GivesLevel es ∧ GivesLevel fs ∧
    Entries.named? "analyze_wildcard" es = Entries.named? "analyze_wildcard" fs ∧
    Entries.named? "field_aliases" es = Entries.named? "field_aliases" fs

theorem level_of_given (given : GivesLevel es) :
    ∃ level, Entries.withDefault "log_level" (Rule.optional Rule.text) none es = .ok level := by
  unfold GivesLevel Entries.under at given
  unfold Entries.withDefault
  cases found : Entries.named? "log_level" es with
  | none => exact ⟨none, rfl⟩
  | some x =>
    rw [found, Option.getD_some] at given
    obtain rfl | ⟨level, rfl⟩ := given
    · exact ⟨none, rfl⟩
    · exact ⟨some level, rfl⟩

theorem ofValue?_unlevelled (left : GivesLevel es) (right : GivesLevel fs)
    (flag : Entries.named? "analyze_wildcard" es = Entries.named? "analyze_wildcard" fs)
    (aliases : Entries.named? "field_aliases" es = Entries.named? "field_aliases" fs) :
    (ofValue? (.map es)).map unlevelled = (ofValue? (.map fs)).map unlevelled := by
  obtain ⟨level, first⟩ := level_of_given left
  obtain ⟨other, second⟩ := level_of_given right
  have flags : Entries.withDefault "analyze_wildcard" Rule.flag true es =
      Entries.withDefault "analyze_wildcard" Rule.flag true fs := by
    rw [Entries.withDefault, Entries.withDefault, flag]
  have tables (r : Rule Entries) : Entries.withDefault "field_aliases" r [] es =
      Entries.withDefault "field_aliases" r [] fs := by
    rw [Entries.withDefault, Entries.withDefault, aliases]
  rw [ofValue?, ofValue?, ofEntries, ofEntries, flags, tables, first, second]
  cases Entries.withDefault "analyze_wildcard" Rule.flag true fs with
  | ok a =>
    cases Entries.withDefault "field_aliases" (Rule.table fun v => (Rule.text v).map .text) [] fs
    · rfl
    · rfl
  | bad issues =>
    cases Entries.withDefault "field_aliases" (Rule.table fun v => (Rule.text v).map .text) [] fs
    · rfl
    · rfl

theorem underEnvironment_unlevelled (environment : Option String) (c : Config) :
    (underEnvironment environment c).result.map unlevelled = .ok c.unlevelled := by
  obtain ⟨level, made⟩ := underEnvironment_result environment c
  rw [made]
  rfl

/-- The environment is asked for the level alone. -/
theorem parse_unlevelled (environment : Option String) (v : Value) :
    (parse environment v).result.map unlevelled = (ofValue? v).map unlevelled := by
  rw [parse, Traced.result_bind, Traced.result_ofExcept, map_bind_comp]
  simp only [underEnvironment_unlevelled, bind_ok_comp]

theorem worded_underEnvironment (environment : Option String) (c : Config) :
    (underEnvironment environment c).Worded := by
  rw [underEnvironment_eq]
  exact forall_overrides (fun text => ⟨text, rfl⟩) environment c.logLevel

theorem worded_parse (environment : Option String) (v : Value) :
    (parse environment v).Worded :=
  Traced.worded_bind (Traced.worded_ofExcept _) (worded_underEnvironment environment)

theorem ofDocument_unlevelled (same : SameButLevel v w) :
    (ofDocument environment v).result.map unlevelled =
      (ofDocument environment' w).result.map unlevelled := by
  rw [ofDocument, ofDocument, parse_unlevelled, parse_unlevelled]
  obtain rfl | ⟨es, fs, left, right, first, second, flag, aliases⟩ := same
  · rfl
  · rw [entriesOf?] at left right
    rw [left, right]
    exact ofValue?_unlevelled first second flag aliases

end Config

namespace Compiler
variable {c d : Config}

/-- Compiling does not look at the level of a configuration. -/
theorem compile_unlevelled (same : c.unlevelled = d.unlevelled) (node : Criterion)
    (chain : Chain) : (ofConfig c).compile node chain = (ofConfig d).compile node chain := by
  obtain ⟨flag, aliases, _⟩ := Config.mk.inj same
  have resolve (field : Value) :
      (ofConfig c).resolveField? field = (ofConfig d).resolveField? field := by
    simp only [resolveField?, ofConfig, aliases]
  have entry (op : Operation) (v field : Value) :
      Compiler.entry? (ofConfig c) op v field = Compiler.entry? (ofConfig d) op v field := by
    simp only [ entry?, standard?, wildcard?, ofConfig, flag]
  have leaves (field : Value) (es : List Entry) :
      (ofConfig c).leaves? field es = (ofConfig d).leaves? field es := by
    induction es with
    | nil => rfl
    | cons e es ih => rw [leaves?, leaves?, entry, ih]
  have fragment (n : Criterion) : (ofConfig c).fragment n = (ofConfig d).fragment n := by
    simp only [Compiler.fragment, unboosted?, resolve, entry, leaves]
  have gather (chain : List Criterion) : (ofConfig c).gather chain = (ofConfig d).gather chain := by
    induction chain with
    | nil => rfl
    | cons n ns ih => rw [Compiler.gather, Compiler.gather, fragment, ih]
  rw [compile, compile, clauses, clauses, gather]

end Compiler

namespace CommandLine
variable {l : Logger} {environment environment' : Option String} {loader loader' : Loader}
  {o p : Options} {c d : Config}

/-- Options that ask for the same but for the level. -/
structure Options.SameButLevel (o p : Options) : Prop where
  path : o.path = p.path
  config : o.config = p.config
  indent : o.indent = p.indent

/-- Files that hold the same document to compile, and a configuration that is the same but for the
level, or cannot be read in either. -/
structure SameDocuments (loader loader' : Loader) (o : Options) : Prop where
  criteria : Document.load? loader .criteria o.path = Document.load? loader' .criteria o.path
  config (path : String) : o.config = some (.value path) →
    (∃ f, Document.load? loader .config path = .error f ∧
      Document.load? loader' .config path = .error f) ∨
    ∃ v w, Document.load? loader .config path = .ok v ∧
      Document.load? loader' .config path = .ok w ∧ Config.SameButLevel v w

/-- A run whose level can be set where it names one. Where it names none, the logger that it finds
gets by on what it reports. -/
def Settled (l : Logger) (environment : Option String) (loader : Loader) (o : Options) : Prop :=
  ∀ c, (loadConfig environment loader o.config).result = .ok c →
    match levelOf o c with
    | some level => ¬ Logger.Misnamed level
    | none => l.Tells (printDocument environment loader o c)

theorem loadConfig_unlevelled (environment environment' : Option String)
    (documents : SameDocuments loader loader' o) :
    (loadConfig environment loader o.config).result.map Config.unlevelled =
      (loadConfig environment' loader' o.config).result.map Config.unlevelled := by
  cases given : o.config with
  | none =>
    rw [loadConfig, loadConfig, Config.parse_unlevelled, Config.parse_unlevelled]
  | some path =>
    cases path with
    | emptied => rfl
    | value path =>
      simp only [loadConfig, Traced.result_bind, Traced.result_ofExcept]
      obtain ⟨f, left, right⟩ | ⟨v, w, left, right, same⟩ := documents.config path given
      · rw [left, right]
        rfl
      · rw [left, right]
        exact Config.ofDocument_unlevelled same

theorem printDocument_unlevelled (options : o.SameButLevel p)
    (documents : SameDocuments loader loader' o) (same : c.unlevelled = d.unlevelled) :
    (printDocument environment loader o c).result =
      (printDocument environment' loader' p d).result := by
  obtain ⟨level, first⟩ := Config.underEnvironment_result environment c
  obtain ⟨other, second⟩ := Config.underEnvironment_result environment' d
  have still : Config.unlevelled { c with logLevel := level } =
      Config.unlevelled { d with logLevel := other } := same
  have compiled := Compiler.compile_unlevelled still
  simp only [printDocument, Traced.result_bind, Traced.result_ofExcept, compileDocument_result,
    ← options.path, ← options.indent, documents.criteria, first, second, ok_bind, compiled]

/-- What is said of a configuration while it is read can always be put into words. -/
theorem worded_loadConfig (given : Option (Given String)) :
    (loadConfig environment loader given).Worded := by
  unfold loadConfig
  split
  · exact Config.worded_parse _ _
  · exact Traced.worded_bind (Traced.worded_ofExcept _) fun _ => Config.worded_parse _ _
  · exact Traced.worded_ofExcept _

/-- With a logger that asks for more than such events, as one that nobody has set up does, a run is
settled where the level that it names can be set. -/
theorem settled_iff_of_rank_lt (asks : Severity.debug.rank < l.threshold) :
    Settled l environment loader o ↔
      ∀ c, (loadConfig environment loader o.config).result = .ok c →
        ∀ level, levelOf o c = some level → ¬ Logger.Misnamed level := by
  have tells (c : Config) : l.Tells (printDocument environment loader o c) := by
    have reported : ∀ e ∈ (printDocument environment loader o c).events,
        e.severity = .debug ∨ ∃ text, e.text = .ok text := by
      apply forall_events_printDocument
      · exact Config.forall_overrides (fun text => .inr ⟨text, rfl⟩) _ _
      · exact fun text => List.forall_mem_singleton.mpr (.inl rfl)
      · exact fun v text => List.forall_mem_singleton.mpr (.inl rfl)
    intro _ e member passed
    obtain debug | words := reported e member
    · rw [Logger.passes, debug, decide_eq_true_eq] at passed
      exact absurd passed (Nat.not_le_of_lt asks)
    · exact words
  refine forall₂_congr fun c _ => ?_
  cases levelOf o c with
  | none => simp [tells c]
  | some level => simp

/-- A settled run ends in what its documents come to, whatever becomes of its events. -/
theorem runOptions_settled (settled : Settled l environment loader o) :
    (runOptions l environment loader o).1 = .ofExcept (do
      let c ← (loadConfig environment loader o.config).result
      (printDocument environment loader o c).result) := by
  have loading : (l.record (loadConfig environment loader o.config)).2 =
      (loadConfig environment loader o.config).result :=
    Logger.record_snd (Logger.tells_of_worded (worded_loadConfig _))
  unfold runOptions
  cases loaded : (loadConfig environment loader o.config).result with
  | error f => simp [loading, loaded]
  | ok c =>
    have level := settled c loaded
    cases named : levelOf o c with
    | none =>
      rw [named] at level
      have printing : (l.record (printDocument environment loader o c)).2 =
          (printDocument environment loader o c).result := Logger.record_snd level
      simp [loading, loaded, named, loggerAt, printing]
    | some name =>
      rw [named] at level
      have set := (Logger.configure_text l name).1 level
      have printing (rank : Nat) :
          (Logger.record ⟨rank, true⟩ (printDocument environment loader o c)).2 =
            (printDocument environment loader o c).result :=
        Logger.record_snd fun handing => Bool.noConfusion handing
      simp [loading, loaded, named, loggerAt, set, printing]

/-- The level that is named to a run, by its arguments, its configuration or its environment, has no
say in its outcome: two runs that differ in it alone come to the same, down to what they print, if
the level of each can be set. It can be, by any text that is not one of two odd names: the text
sets the level that it names, and the standard one if it names none. This is so whatever reads the
documents that are no JSON. -/
theorem outcome_of_levels (l l' : Logger) (environment environment' : Option String)
    (loader loader' : Loader) (arguments arguments' : List String) (o p : Options)
    (level : String) :
    (Options.ofArguments arguments = .ok o → Options.ofArguments arguments' = .ok p →
      o.SameButLevel p → SameDocuments loader loader' o →
      Settled l environment loader o → Settled l' environment' loader' p →
      (runFrom l environment loader arguments).1 =
        (runFrom l' environment' loader' arguments').1) ∧
    (¬ Logger.Misnamed level → l.configure (.text level) =
      (⟨(Logger.standardRanks.lookup (capitalized level)).getD 20, true⟩, .ok ())) ∧
    (Logger.Misnamed level →
      ∃ f, l.configure (.text level) = ({ l with streaming := true }, .error f)) := by
  refine ⟨?_, Logger.configure_text l level⟩
  intro accepted accepted' options documents settled settled'
  have loaded := loadConfig_unlevelled environment environment' documents
  rw [runFrom, runFrom, accepted, accepted']
  change (runOptions l environment loader o).1 = (runOptions l' environment' loader' p).1
  rw [runOptions_settled settled, runOptions_settled settled', ← options.config]
  cases first : (loadConfig environment loader o.config).result with
  | error f =>
    cases second : (loadConfig environment' loader' o.config).result with
    | error g =>
      rw [first, second] at loaded
      rw [Except.error.inj loaded]
      rfl
    | ok d =>
      rw [first, second] at loaded
      cases loaded
  | ok c =>
    cases second : (loadConfig environment' loader' o.config).result with
    | error g =>
      rw [first, second] at loaded
      cases loaded
    | ok d =>
      rw [first, second] at loaded
      rw [ok_bind, ok_bind, printDocument_unlevelled options documents (Except.ok.inj loaded)]

/-- A level from the arguments, over one from the environment that names none, changes nothing of
what is printed where no level is named. -/
theorem outcome_of_levels_sample :
    let loader := Loader.ofFiles (filesOf "\"type\"" "\"inn\"")
    (runFrom .untouched none loader ["compile", "chain.json"]).1 =
        (runFrom .untouched (some "loud") loader
          ["compile", "chain.json", "--log-level", "debug"]).1 ∧
      Logger.untouched.configure (.text "loud") = (⟨20, true⟩, .ok ()) ∧
      ∃ f, Logger.untouched.configure (.text "_Styles") = (⟨0, true⟩, .error f) := by
  intro loader
  let o : Options := ⟨"chain.json", none, none, none⟩
  let p : Options := ⟨"chain.json", none, none, some (.value "debug")⟩
  have accepted : Options.ofArguments ["compile", "chain.json"] = .ok o := by decide +kernel
  have accepted' :
      Options.ofArguments ["compile", "chain.json", "--log-level", "debug"] = .ok p := by
    decide +kernel
  have asks : Severity.debug.rank < Logger.untouched.threshold := by decide
  have settled : Settled .untouched none loader o := by
    refine (settled_iff_of_rank_lt asks).mpr fun c loaded level named => ?_
    cases loaded
    cases named
  have settled' : Settled .untouched (some "loud") loader p := by
    refine (settled_iff_of_rank_lt asks).mpr fun c loaded level named => ?_
    cases loaded
    cases named
    decide +kernel
  have known : ¬ Logger.Misnamed "loud" := by decide +kernel
  have misnamed : Logger.Misnamed "_Styles" := by decide +kernel
  have runs (level : String) := outcome_of_levels .untouched .untouched none (some "loud") loader
    loader ["compile", "chain.json"] ["compile", "chain.json", "--log-level", "debug"] o p level
  exact ⟨(runs "loud").1 accepted accepted' ⟨rfl, rfl, rfl⟩ ⟨rfl, nofun⟩ settled settled',
    (runs "loud").2.1 known, (runs "_Styles").2.2 misnamed⟩

/-- A level of the name of something else ends a run that prints without it. -/
theorem run_stops_at_level :
    let files := filesOf "\"type\"" "\"inn\""
    (run none files ["compile", "chain.json", "--log-level", "basic_format"]).1 =
        .escaped (.choice .level) ∧
      (run none files ["compile", "chain.json"]).1 =
        .printed ("\x7b\"bool\": \x7b\"must\": [\x7b\"fuzzy\": \x7b\"type\": " ++
          "\x7b\"value\": \"inn\"\x7d\x7d\x7d]\x7d\x7d\n") := by
  decide +kernel

end CommandLine
end SearchCriteria
