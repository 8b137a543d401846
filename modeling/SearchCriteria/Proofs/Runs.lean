import SearchCriteria.CommandLine.Run
import SearchCriteria.Proofs.Grammar
import SearchCriteria.Proofs.Printed
import SearchCriteria.Proofs.Refusals

/-! What a run of the command line comes to where no level is named: it prints the rendering of
what its document describes, it reports a failure, or it stops at one of a few failures that are
not caught. These are told from the options and the document alone, whatever reads the documents
that are no JSON, and whatever logger the run finds. -/
namespace SearchCriteria

namespace Traced
variable {α β : Type} {t : Traced α} {f : α → Traced β}

/-- A computation whose events have no words only where an integer in them has too many digits. -/
def Told (t : Traced α) : Prop := ∀ e ∈ t.events, ∀ f, e.text = .error f → f = .tooManyDigits

theorem told_ofExcept (r : Except Failure α) : (ofExcept r).Told := by
  intro e member
  cases member

theorem told_report {e : Event} (words : ∀ f, e.text = .error f → f = .tooManyDigits) :
    (report e).Told := by
  intro d member
  rw [List.mem_singleton.mp member]
  exact words

theorem told_debug (text : String) : (debug text).Told := told_report nofun

theorem told_debugAbout (v : Value) (text : String → String) : (debugAbout v text).Told := by
  refine told_report fun f silent => ?_
  exact (Value.written?_eq_error_iff.mp (map_eq_error_iff.mp silent)).2

theorem forall_events_bind {P : Event → Prop} (first : ∀ e ∈ t.events, P e)
    (next : ∀ a, ∀ e ∈ (f a).events, P e) : ∀ e ∈ (t >>= f).events, P e := by
  cases made : t.result with
  | error e =>
    rw [events_bind_error made]
    exact first
  | ok a =>
    rw [events_bind_ok made, List.forall_mem_append]
    exact ⟨first, next a⟩

theorem told_bind (first : t.Told) (next : ∀ a, (f a).Told) : (t >>= f).Told :=
  forall_events_bind first next

end Traced

namespace Logger
variable {α : Type} {t : Traced α} {f : Failure} {a : α}

theorem handOver_eq_error {events : List Event}
    (told : ∀ e ∈ events, ∀ f, e.text = .error f → f = .tooManyDigits)
    (stopped : (handOver events).2 = .error f) : f = .tooManyDigits := by
  induction events with
  | nil => cases stopped
  | cons e events ih =>
    rw [List.forall_mem_cons] at told
    simp only [handOver] at stopped
    split at stopped
    · rename_i d silent
      cases stopped
      exact told.1 _ silent
    · exact ih told.2 stopped

/-- A logger without a stream hands events over, which is where a computation can end too early. -/
theorem record_eq_error {l : Logger} (told : t.Told) (refused : (l.record t).2 = .error f) :
    f = .tooManyDigits ∨ t.result = .error f := by
  unfold record at refused
  split at refused
  · exact .inr refused
  · obtain stopped | ⟨_, _, result⟩ := bind_eq_error_iff.mp refused
    · refine .inl (handOver_eq_error ?_ stopped)
      exact fun e member => told e (List.mem_of_mem_filter member)
    · exact .inr result

/-- What a computation comes to through any logger, it comes to without one. -/
theorem record_eq_ok {l : Logger} (made : (l.record t).2 = .ok a) : t.result = .ok a := by
  unfold record at made
  split at made
  · exact made
  · obtain ⟨_, _, result⟩ := bind_eq_ok_iff.mp made
    exact result

end Logger

namespace Config

/-- The environment is at most warned about. -/
theorem forall_overrides {P : Event → Prop} (warned : ∀ text, P ⟨.warning, .ok text⟩)
    (env own : Option String) : ∀ e ∈ overrides env own, P e := by
  unfold overrides
  split
  · split
    · exact nofun
    · exact List.forall_mem_singleton.mpr (warned _)
  · exact nofun

theorem told_underEnvironment (env : Option String) (c : Config) :
    (underEnvironment env c).Told := by
  rw [underEnvironment_eq]
  exact forall_overrides (fun _ => nofun) env c.logLevel

theorem told_parse (env : Option String) (v : Value) : (parse env v).Told :=
  Traced.told_bind (Traced.told_ofExcept _) (told_underEnvironment env)

end Config

namespace Compiler
variable (c : Compiler) {P : Event → Prop}
  (debugged : ∀ text, ∀ e ∈ (Traced.debug text).events, P e)

include debugged

theorem forall_events_boosted (q : Query) (boost : Binary64) :
    ∀ e ∈ (boosted q boost).events, P e := by
  unfold boosted
  split
  · exact nofun
  · split
    · exact nofun
    · exact Traced.forall_events_bind (debugged _) fun _ => nofun

theorem forall_events_fragment (n : Criterion) : ∀ e ∈ (c.fragment n).events, P e := by
  refine Traced.forall_events_bind nofun fun r => ?_
  cases r with
  | none => exact nofun
  | some q =>
    exact Traced.forall_events_bind (forall_events_boosted debugged q n.boost) fun _ => nofun

variable (about : ∀ v text, ∀ e ∈ (Traced.debugAbout v text).events, P e)

include about

theorem forall_events_gather (chain : Chain) : ∀ e ∈ (c.gather chain).events, P e := by
  induction chain with
  | nil => exact nofun
  | cons n ns ih =>
    refine Traced.forall_events_bind (c.forall_events_fragment debugged n) fun r => ?_
    cases r with
    | none => exact Traced.forall_events_bind (about _ _) fun _ => ih
    | some q => exact Traced.forall_events_bind ih fun _ => nofun

/-- Compiling reports what it counts, and what it leaves out. -/
theorem forall_events_compile (node : Criterion) (chain : Chain) :
    ∀ e ∈ (c.compile node chain).events, P e := by
  refine Traced.forall_events_bind ?_ fun _ => nofun
  unfold clauses
  split
  · exact nofun
  · refine Traced.forall_events_bind (c.forall_events_gather debugged about chain) fun cs => ?_
    split
    · exact nofun
    · exact Traced.forall_events_bind (debugged _) fun _ => nofun

end Compiler

namespace Document
variable {loader : Loader} {role : DocumentRole} {path : String} {f : Failure}

/-- A document that is no JSON, and whose reader raises a failure on the text of its file. -/
def Raises (loader : Loader) (path : String) (f : Failure) : Prop :=
  extension path ≠ ".json" ∧ ∃ bs s, loader.files path = .ok bs ∧ decodeUtf8? bs = some s ∧
    loader.reader (unifyLineBreaks s.toList) = .error (.raised f)

/-- What is raised where a document is read comes from its reader, and never from JSON. -/
theorem read?_eq_raised_iff : read? loader path = .error (.raised f) ↔ Raises loader path f := by
  unfold read? Raises
  cases loader.files path with
  | error fault => simp [Except.mapError, Except.bind]
  | ok bs =>
    simp only [Except.mapError, Except.bind, ofBytes?, Except.ok.injEq, exists_and_left,
      exists_eq_left']
    cases decodeUtf8? bs with
    | none => simp
    | some s =>
      simp only [ofText?, beq_iff_eq, Option.some.injEq, exists_eq_left']
      split
      · rename_i json
        cases Json.read? (unifyLineBreaks s.toList) <;> simp [json]
      · rename_i other
        exact (and_iff_right other).symm

theorem load?_eq_error (refused : load? loader role path = .error f) :
    f.isReported = true ∨ Raises loader path f := by
  obtain ⟨fault, unread, rfl⟩ := mapError_eq_error_iff.mp refused
  cases fault with
  | unread fault => exact .inl rfl
  | raised f => exact .inr (read?_eq_raised_iff.mp unread)

end Document

namespace CommandLine

/-- The chain that the document of a run describes. -/
def Options.Describes (loader : Loader) (o : Options) (chain : Chain) : Prop :=
  ∃ v, Document.load? loader .criteria o.path = .ok v ∧ Chain.ofPlain? v = .ok chain

/-- The failures that a run can stop at without a report, where all numbers can be written out. -/
inductive Stop (loader : Loader) (o : Options) : Failure → Prop where
  /-- The path of a configuration, or the width of an indentation, that is taken away. -/
  | emptiedConfig : o.config = some .emptied → Stop loader o (.kind (.notPath emptiedKind))
  | emptiedIndent : o.indent = some .emptied → Stop loader o (.kind (.notCount emptiedKind))
  | wideIndent (n : Int) : o.indent = some (.value n) → Value.isIndex n = false →
      Stop loader o .indexOverflow
  /-- What the reader of a document raises. -/
  | raised (path : String) (f : Failure) : path = o.path ∨ o.config = some (.value path) →
      Document.Raises loader path f → Stop loader o f
  /-- A boost that is too large for a double. -/
  | largeBoost (v : Value) (es : Entries) : Document.load? loader .criteria o.path = .ok v →
      .map es ∈ Chain.nodesOf v → (Entries.under "boost" es).OverflowsBoost →
      Stop loader o .overflow
  /-- A field with entries that is neither a text nor null. -/
  | oddField (chain : Chain) (n : Criterion) (f : Failure) : o.Describes loader chain → n ∈ chain →
      n.entries ≠ [] → ¬ n.field.IsProperty → Stop loader o f
  /-- A bound of a range with a key in it that JSON has no form for. -/
  | oddKey (chain : Chain) (n : Criterion) (e : Entry) (kind : String) :
      o.Describes loader chain → n ∈ chain → e ∈ n.entries → e.operation = .between →
      e.value.isKeyed = false → Stop loader o (.kind (.badKey kind))

/-- The rendering of what a document is compiled into: null where that is no query. -/
def rendering? : Option Query → Except Failure Value
  | none => .ok .null
  | some q => q.render?

theorem printed?_eq (indent : Option (Given Int)) (q : Option Query) : printed? indent q = (do
    let v ← rendering? q
    let width ← width? indent
    return (← Json.render? width v) ++ "\n") := by
  cases q <;> rfl

theorem compileDocument_result (environment : Option String) (c : Config) (v : Value) :
    (compileDocument environment c v).result = (do
      let chain ← Chain.ofPlain? v
      let d ← (Config.underEnvironment environment c).result
      ((Compiler.ofConfig d).compile (chain.getLastD default) chain).result) := by
  simp only [compileDocument, Traced.result_bind, Traced.result_ofExcept]

/-- What a run prints if nothing keeps it from it: the rendering, as JSON, of the query of the chain
that its document describes. -/
def Options.Answers (environment : Option String) (loader : Loader) (o : Options) (text : String) :
    Prop :=
  ∃ c d v chain q w width t, (loadConfig environment loader o.config).result = .ok c ∧
    (Config.underEnvironment environment c).result = .ok d ∧
    Document.load? loader .criteria o.path = .ok v ∧ Chain.ofPlain? v = .ok chain ∧
    ((Compiler.ofConfig d).compile (chain.getLastD default) chain).result = .ok q ∧
    rendering? q = .ok w ∧ width? o.indent = .ok width ∧ Json.render? width w = .ok t ∧
    text = t ++ "\n"

section Run
variable {l : Logger} {environment : Option String} {loader : Loader} {o : Options} {f : Failure}
  {c : Config} {v : Value} {chain : Chain} {q : Option Query}

/-- A failure that ends a run: it is reported, or known. -/
def Ends (loader : Loader) (o : Options) (f : Failure) : Prop :=
  f.isReported = true ∨ f = .tooManyDigits ∨ Stop loader o f

theorem valid_of_loadConfig {given : Option (Given String)}
    (made : (loadConfig environment loader given).result = .ok c) : c.Valid := by
  cases given with
  | none => exact Config.valid_of_parse made
  | some path =>
    cases path with
    | value path =>
      obtain ⟨v, _, rest⟩ := bind_eq_ok_iff.mp ((Traced.result_bind _ _).symm.trans made)
      exact Config.valid_of_parse rest
    | emptied => cases made

theorem reported_of_parse (refused : (Config.parse environment v).result = .error f) :
    f.isReported = true := by
  rw [Config.parse, Traced.result_bind] at refused
  obtain described | ⟨c, _, rest⟩ := bind_eq_error_iff.mp refused
  · simp only [Traced.result_ofExcept, Config.ofValue?] at described
    split at described
    · cases described
    · split at described
      · cases described
      · cases described
        rfl
    · cases described
      rfl
  · obtain ⟨level, made⟩ := Config.underEnvironment_result environment c
    rw [made] at rest
    cases rest

theorem ends_of_loadConfig (refused : (loadConfig environment loader o.config).result = .error f) :
    Ends loader o f := by
  cases given : o.config with
  | none =>
    rw [given] at refused
    exact .inl (reported_of_parse refused)
  | some path =>
    rw [given] at refused
    cases path with
    | emptied =>
      cases refused
      exact .inr (.inr (.emptiedConfig given))
    | value path =>
      obtain loaded | ⟨v, _, rest⟩ :=
        bind_eq_error_iff.mp ((Traced.result_bind _ _).symm.trans refused)
      · obtain reported | raised := Document.load?_eq_error loaded
        · exact .inl reported
        · exact .inr (.inr (.raised path f (.inr given) raised))
      · exact .inl (reported_of_parse rest)

theorem told_loadConfig (given : Option (Given String)) :
    (loadConfig environment loader given).Told := by
  unfold loadConfig
  split
  · exact Config.told_parse _ _
  · exact Traced.told_bind (Traced.told_ofExcept _) fun _ => Config.told_parse _ _
  · exact Traced.told_ofExcept _

/-- What a run reports once it is configured: what is said of the level, and what the compiler counts
and leaves out. -/
theorem forall_events_printDocument {P : Event → Prop}
    (warned : ∀ e ∈ Config.overrides environment c.logLevel, P e)
    (debugged : ∀ text, ∀ e ∈ (Traced.debug text).events, P e)
    (about : ∀ v text, ∀ e ∈ (Traced.debugAbout v text).events, P e) :
    ∀ e ∈ (printDocument environment loader o c).events, P e := by
  refine Traced.forall_events_bind nofun fun v => ?_
  refine Traced.forall_events_bind ?_ fun _ => nofun
  refine Traced.forall_events_bind nofun fun chain => ?_
  refine Traced.forall_events_bind ?_ fun d => Compiler.forall_events_compile _ debugged about _ _
  rw [Config.underEnvironment_eq]
  exact warned

theorem told_printDocument : (printDocument environment loader o c).Told :=
  forall_events_printDocument (Config.forall_overrides (fun _ => nofun) _ _) Traced.told_debug
    Traced.told_debugAbout

/-- A document that describes no chain is reported, but for a boost that is too large. -/
theorem ends_of_ofPlain? (loaded : Document.load? loader .criteria o.path = .ok v)
    (refused : Chain.ofPlain? v = .error f) : Ends loader o f := by
  rw [Chain.ofPlain?_eq_firstOf, firstOf_eq_error_iff] at refused
  obtain (⟨fault, rfl⟩ | ⟨digits, _⟩) | ⟨rfl, es, node, large⟩ :=
    Chain.worded_of_mem_faults (List.mem_of_head? refused)
  · exact .inl rfl
  · exact .inr (.inl digits)
  · exact .inr (.inr (.largeBoost v es loaded node large))

/-- A chain is refused with a report where each of its fields is a name or none. -/
theorem ends_of_compile {node : Criterion} (valid : c.Valid) (described : o.Describes loader chain)
    (refused : ((Compiler.ofConfig c).compile node chain).result = .error f) : Ends loader o f := by
  by_cases named : ∀ n ∈ chain, n.entries ≠ [] → n.field.IsProperty
  · obtain ⟨v, _, read⟩ := described
    obtain ⟨_, before, n, after, _, _, _, field | field | digits⟩ :=
      (Compiler.compile_eq_error_iff (Compiler.regular_ofConfig valid)
        (Chain.accepted_of_ofPlain? read) named).mp refused
    · rw [field.2]
      exact .inl rfl
    · obtain ⟨s, _, _, rfl⟩ := field
      exact .inl rfl
    · obtain ⟨_, _, _, _, _, _, same⟩ := digits
      exact .inr (.inl same)
  · push Not at named
    obtain ⟨n, member, said, odd⟩ := named
    exact .inr (.inr (.oddField chain n f described member said odd))

theorem ends_of_width? (refused : width? o.indent = .error f) : Ends loader o f := by
  cases given : o.indent with
  | none =>
    rw [given] at refused
    cases refused
  | some width =>
    rw [given] at refused
    cases width with
    | value n => cases refused
    | emptied =>
      cases refused
      exact .inr (.inr (.emptiedIndent given))

/-- A value is written out unless the indentation is too wide or a key in it is odd. -/
theorem ends_of_render? {width : Option Int} (given : width? o.indent = .ok width)
    (odd : v.isKeyed = false → ∀ kind, Stop loader o (.kind (.badKey kind)))
    (refused : Json.render? width v = .error f) : Ends loader o f := by
  unfold Json.render? at refused
  split at refused
  · obtain digits | ⟨⟨kind, rfl⟩, unkeyed⟩ := Json.Style.unwritten_of_write? rfl 0 v refused
    · exact .inr (.inl digits)
    · exact .inr (.inr (odd unkeyed kind))
  · rename_i wide
    cases refused
    cases asked : o.indent with
    | none =>
      rw [asked] at given
      cases given
      exact absurd rfl wide
    | some width =>
      rw [asked] at given
      cases width with
      | value n =>
        cases given
        exact .inr (.inr (.wideIndent n asked (Bool.eq_false_iff.mpr wide)))
      | emptied => cases given

/-- The rendering of the query of a chain has odd keys only where a bound in the chain has. -/
theorem stop_of_unkeyed {node : Criterion} {p : Query} (described : o.Describes loader chain)
    (made : ((Compiler.ofConfig c).compile node chain).result = .ok (some p))
    (rendered : p.render? = .ok v) (unkeyed : v.isKeyed = false) (kind : String) :
    Stop loader o (.kind (.badKey kind)) := by
  obtain ⟨document, _, read⟩ := id described
  have some : ¬ ∀ n ∈ chain, n.Contributes → n.Passes .keyed := by
    rw [← Compiler.queryPasses_compile_iff rfl (Chain.accepted_of_ofPlain? read) made,
      ← PartTest.passes_render? _ p v rendered]
    exact Bool.eq_false_iff.mp unkeyed
  push Not at some
  obtain ⟨n, member, _, odd⟩ := some
  have bound : ∃ e ∈ n.entries, e.operation = .between ∧ e.value.isKeyed = false := by
    by_contra none
    push Not at none
    exact odd ⟨fun _ => rfl, fun e entry range => Bool.ne_false_iff.mp (none e entry range)⟩
  obtain ⟨e, entry, range, odd⟩ := bound
  exact .oddKey chain n e kind described member entry range odd

theorem ends_of_printed? {node : Criterion}
    (described : o.Describes loader chain)
    (made : ((Compiler.ofConfig c).compile node chain).result = .ok q)
    (refused : printed? o.indent q = .error f) : Ends loader o f := by
  rw [printed?_eq] at refused
  obtain failed | ⟨v, rendered, rest⟩ := bind_eq_error_iff.mp refused
  · cases q with
    | none => cases failed
    | some p =>
      obtain digits | reported := Query.reported_of_render? p failed
      · exact .inr (.inl digits)
      · exact .inl reported
  · obtain width | ⟨width, given, rest⟩ := bind_eq_error_iff.mp rest
    · exact ends_of_width? width
    · obtain written | ⟨_, _, absurd⟩ := bind_eq_error_iff.mp rest
      · refine ends_of_render? given ?_ written
        cases q with
        | none =>
          cases rendered
          intro absurd
          cases absurd
        | some p => exact stop_of_unkeyed described made rendered
      · cases absurd

theorem ends_of_printDocument (valid : c.Valid)
    (refused : (printDocument environment loader o c).result = .error f) : Ends loader o f := by
  simp only [printDocument, Traced.result_bind, Traced.result_ofExcept,
    compileDocument_result] at refused
  obtain loading | ⟨v, loaded, rest⟩ := bind_eq_error_iff.mp refused
  · obtain reported | raised := Document.load?_eq_error loading
    · exact .inl reported
    · exact .inr (.inr (.raised o.path f (.inl rfl) raised))
  obtain ⟨level, quiet⟩ := Config.underEnvironment_result environment c
  have still := valid.of_underEnvironment quiet
  obtain compiling | ⟨q, compiled, printing⟩ := bind_eq_error_iff.mp rest
  · obtain reading | ⟨chain, read, compiling⟩ := bind_eq_error_iff.mp compiling
    · exact ends_of_ofPlain? loaded reading
    · rw [quiet, ok_bind] at compiling
      exact ends_of_compile still ⟨v, loaded, read⟩ compiling
  · obtain ⟨chain, read, compiled⟩ := bind_eq_ok_iff.mp compiled
    rw [quiet, ok_bind] at compiled
    exact ends_of_printed? ⟨v, loaded, read⟩ compiled printing

theorem answers_of_printDocument {text : String}
    (loaded : (loadConfig environment loader o.config).result = .ok c)
    (printed : (printDocument environment loader o c).result = .ok text) :
    o.Answers environment loader text := by
  simp only [printDocument, Traced.result_bind, Traced.result_ofExcept, compileDocument_result,
    printed?_eq] at printed
  obtain ⟨v, document, rest⟩ := bind_eq_ok_iff.mp printed
  obtain ⟨q, compiled, rest⟩ := bind_eq_ok_iff.mp rest
  obtain ⟨chain, read, compiled⟩ := bind_eq_ok_iff.mp compiled
  obtain ⟨d, level, compiled⟩ := bind_eq_ok_iff.mp compiled
  obtain ⟨w, rendered, rest⟩ := bind_eq_ok_iff.mp rest
  obtain ⟨width, given, rest⟩ := bind_eq_ok_iff.mp rest
  obtain ⟨t, written, last⟩ := bind_eq_ok_iff.mp rest
  exact ⟨c, d, v, chain, q, w, width, t, loaded, level, document, read, compiled, rendered, given,
    written, (Except.ok.inj last).symm⟩

theorem ofExcept_eq_printed_iff {r : Except Failure String} {text : String} :
    Outcome.ofExcept r = .printed text ↔ r = .ok text := by
  cases r with
  | ok t => simp [Outcome.ofExcept]
  | error f => cases reported : f.isReported <;> simp [Outcome.ofExcept, reported]

/-- What is printed is the answer to the options, wherever the events go. -/
theorem answers_of_run {arguments : List String} {text : String}
    (printed : (runFrom l environment loader arguments).1 = .printed text) :
    ∃ o, Options.ofArguments arguments = .ok o ∧ o.Answers environment loader text := by
  unfold runFrom at printed
  split at printed
  · cases printed
  · rename_i o accepted
    refine ⟨o, accepted, ?_⟩
    unfold runOptions at printed
    split at printed
    rename_i before loaded loading
    split at printed
    · simp only [ofExcept_eq_printed_iff, reduceCtorEq] at printed
    · split at printed
      · simp only [ofExcept_eq_printed_iff, reduceCtorEq] at printed
      · exact answers_of_printDocument (Logger.record_eq_ok (congrArg Prod.snd loading))
          (Logger.record_eq_ok (ofExcept_eq_printed_iff.mp printed))

/-- Without a level, what ends the first half of a run ends the run, and the second half decides
otherwise. -/
theorem runOptions_fst (quiet : ∀ c, (loadConfig environment loader o.config).result = .ok c →
    levelOf o c = none) : (runOptions l environment loader o).1 = .ofExcept (do
      let c ← (l.record (loadConfig environment loader o.config)).2
      (l.record (printDocument environment loader o c)).2) := by
  unfold runOptions
  cases loaded : (l.record (loadConfig environment loader o.config)).2 with
  | error f => simp [loaded]
  | ok c =>
    have none : levelOf o c = none := quiet c (Logger.record_eq_ok loaded)
    simp [loaded, none, loggerAt]

/-- What ends a run is reported where it can be, in one line and without any output. -/
theorem outcome_of_ends {outcome : Outcome} (ended : outcome = .ofExcept (.error f))
    (ends : Ends loader o f) :
    (∃ f, outcome = .reported f ∧ outcome.exitCode = 1 ∧ outcome.output = "" ∧
        outcome.complaint = "error: " ++ f.message ++ "\n") ∨
      ∃ f, outcome = .escaped f ∧ (f = .tooManyDigits ∨ Stop loader o f) := by
  cases reported : f.isReported with
  | true =>
    have told : outcome = .reported f := by simp [ended, Outcome.ofExcept, reported]
    rw [told]
    exact .inl ⟨f, rfl, rfl, rfl, rfl⟩
  | false =>
    refine .inr ⟨f, by simp [ended, Outcome.ofExcept, reported], ends.resolve_left ?_⟩
    exact Bool.eq_false_iff.mp reported

/-- A run to which no level is named anywhere, and whose arguments are taken, prints its answer and
nothing else, or reports a failure and prints nothing, or stops at a failure that is not caught. It
does the last only for a number of too many digits, or as told above. -/
theorem run_quiet (l : Logger) (environment : Option String) (loader : Loader)
    (arguments : List String) (o : Options) (accepted : Options.ofArguments arguments = .ok o)
    (quiet : ∀ c, (loadConfig environment loader o.config).result = .ok c → levelOf o c = none) :
    let outcome := (runFrom l environment loader arguments).1
    (outcome.exitCode = 0 ∧ o.Answers environment loader outcome.output) ∨
      (∃ f, outcome = .reported f ∧ outcome.exitCode = 1 ∧ outcome.output = "" ∧
        outcome.complaint = "error: " ++ f.message ++ "\n") ∨
      ∃ f, outcome = .escaped f ∧ (f = .tooManyDigits ∨ Stop loader o f) := by
  intro outcome
  have options : outcome = (runOptions l environment loader o).1 := by
    change (runFrom l environment loader arguments).1 = _
    rw [runFrom, accepted]
  have whole := options.trans (runOptions_fst quiet)
  cases loading : (l.record (loadConfig environment loader o.config)).2 with
  | error f =>
    rw [loading] at whole
    refine .inr (outcome_of_ends whole ?_)
    obtain digits | refused := Logger.record_eq_error (told_loadConfig _) loading
    · exact .inr (.inl digits)
    · exact ends_of_loadConfig refused
  | ok c =>
    rw [loading] at whole
    have loaded := Logger.record_eq_ok loading
    cases printing : (l.record (printDocument environment loader o c)).2 with
    | error f =>
      refine .inr (outcome_of_ends (whole.trans (congrArg Outcome.ofExcept printing)) ?_)
      obtain digits | refused := Logger.record_eq_error told_printDocument printing
      · exact .inr (.inl digits)
      · exact ends_of_printDocument (valid_of_loadConfig loaded) refused
    | ok text =>
      have printed : outcome = .printed text :=
        whole.trans (congrArg Outcome.ofExcept printing)
      rw [printed]
      exact .inl ⟨rfl, answers_of_printDocument loaded (Logger.record_eq_ok printing)⟩

end Run

/-- Files that all hold the document of one criterion, the field and the value of which are given as
they stand in it. -/
def filesOf (field value : String) : Files := fun _ =>
  .ok ("\x7b\"field\": " ++ field ++ ", \"entries\": [\x7b\"key\": \"fuzzy\", \"value\": " ++ value
    ++ "\x7d]\x7d").toUTF8.data.toList

theorem run_quiet_printed :
    let loader := Loader.ofFiles (filesOf "\"type\"" "\"inn\"")
    let o : Options := ⟨"chain.json", none, none, none⟩
    Options.ofArguments ["compile", "chain.json"] = .ok o ∧
      (∀ c, (loadConfig none loader o.config).result = .ok c → levelOf o c = none) ∧
      o.Answers none loader ("\x7b\"bool\": \x7b\"must\": [\x7b\"fuzzy\": \x7b\"type\": " ++
        "\x7b\"value\": \"inn\"\x7d\x7d\x7d]\x7d\x7d\n") := by
  intro loader o
  have accepted : Options.ofArguments ["compile", "chain.json"] = .ok o := by decide +kernel
  have quiet : ∀ c, (loadConfig none loader o.config).result = .ok c → levelOf o c = none := by
    intro c loaded
    cases loaded
    rfl
  have printed : (runFrom .untouched none loader ["compile", "chain.json"]).1 =
      .printed ("\x7b\"bool\": \x7b\"must\": [\x7b\"fuzzy\": \x7b\"type\": " ++
        "\x7b\"value\": \"inn\"\x7d\x7d\x7d]\x7d\x7d\n") := by
    decide +kernel
  refine ⟨accepted, quiet, ?_⟩
  have outcome := run_quiet .untouched none loader ["compile", "chain.json"] o accepted quiet
  rw [printed] at outcome
  obtain ⟨_, answers⟩ | ⟨f, absurd, _⟩ | ⟨f, absurd, _⟩ := outcome
  · exact answers
  · cases absurd
  · cases absurd

/-- A field that is a number is caught by no one: the query of an entry on such a field is refused
by its own rules, and not for the want of a name. -/
theorem run_stops_at_field : (run none (filesOf "5" "\"inn\"") ["compile", "chain.json"]).1 =
    .escaped (.invalid "FuzzyQuery" [⟨.notText, [.name "field"]⟩]) := by
  decide +kernel

end CommandLine
end SearchCriteria
