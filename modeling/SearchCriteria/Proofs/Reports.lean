import Mathlib.Data.List.TakeWhile
import SearchCriteria.Log.Logger
import SearchCriteria.Proofs.Boosts
import SearchCriteria.Proofs.Refusals

/-! What compiling a chain reports. Every criterion that is left out is reported, in the order of
the chain and up to the first one that is refused, and a query that comes of it is reported with the
number of its clauses. Clauses and reports together account for all criteria of the chain. -/
namespace SearchCriteria

namespace Event

/-- The words for a criterion that is left out. -/
def omission (field : String) : String := "Criteria on " ++ field ++ " contributes no clause"

/-- The report of a criterion that is left out. It names the field, and has no words where that
cannot be written out. -/
def omitted (n : Criterion) : Event := ⟨.debug, n.field.written?.map omission⟩

end Event

/-- How many clauses a query has in each slot, in words. -/
def Query.summary (q : Query) : String :=
  "Compiled " ++ toString (q.clausesIn .should).length ++ " should, "
    ++ toString (q.clausesIn .mustNot).length ++ " must_not, "
    ++ toString (q.clausesIn .must).length ++ " must clauses"

theorem Clauses.summary_toQuery (cs : Clauses) : cs.toQuery.summary = cs.summary := by
  rw [toQuery_eq]
  rfl

/-- Every criterion of a chain has one clause or none. -/
theorem Clauses.length_routed (frag : Criterion → Option Query) (chain : Chain) :
    (routed frag chain).should.length + (routed frag chain).mustNot.length +
      (routed frag chain).must.length + (chain.filter fun n => (frag n).isNone).length =
        chain.length := by
  have all := (all_routed frag chain).length_eq
  have split := List.length_eq_length_filter_add (l := chain) fun n => (frag n).isSome
  rw [List.length_filterMap_eq_countP, List.countP_eq_length_filter] at all
  simp only [Clauses.all, List.length_append] at all
  simp only [Option.not_isSome] at split
  omega

namespace Logger
variable {α : Type} {l : Logger} {t : Traced α}

/-- Nothing ranks below what is said for debugging. -/
theorem filter_passes (level : l.level = Severity.debug.rank) (events : List Event) :
    events.filter l.passes = events := by
  rw [List.filter_eq_self]
  intro e _
  rw [passes, threshold, level]
  cases e.severity with
  | debug => rfl
  | warning => rfl

/-- What comes out of a logger when texts are reported for debugging. -/
def shown (l : Logger) (texts : List String) : Transcript :=
  if l.streaming then ⟨[], String.join (texts.map (Transcript.streamLine .debug))⟩
  else ⟨texts.map fun text => Severity.debug.name ++ " " ++ text, ""⟩

theorem handOver_texts (texts : List String) :
    handOver (texts.map fun text => ⟨.debug, .ok text⟩) =
      (texts.map fun text => Severity.debug.name ++ " " ++ text, .ok ()) := by
  induction texts with
  | nil => rfl
  | cons text texts ih => rw [List.map_cons, handOver, ih, List.map_cons]

/-- A logger for debugging puts out all texts, and lets the computation come to its end. -/
theorem record_texts (level : l.level = Severity.debug.rank) {texts : List String}
    (said : t.events = texts.map fun text => ⟨.debug, .ok text⟩) :
    l.record t = (l.shown texts, t.result) := by
  have lines : (texts.map fun text => (⟨.debug, .ok text⟩ : Event)).filterMap
      Transcript.streamLine? = texts.map (Transcript.streamLine .debug) := by
    rw [List.filterMap_map]
    exact congrFun List.filterMap_eq_map texts
  unfold record shown
  rw [filter_passes level, said]
  cases l.streaming with
  | true => simp only [lines, if_true]
  | false =>
    simp only [handOver_texts, Bool.false_eq_true, if_false]
    rfl

end Logger

namespace Compiler
variable {c : Compiler} {node n : Criterion} {chain : Chain} {q : Query}

section Fragment

/-- What is reported of a boost is that there is no place for it. -/
theorem events_boosted (room : q.boostable = true) (boost : Binary64) :
    (boosted q boost).events = [] := by
  obtain ⟨p, copy⟩ := Query.withBoost?_of_boostable room (.float boost)
  rw [boosted, copy]
  split <;> rfl

theorem boostable_of_unboosted? (standard : c.style = .standard)
    (made : c.unboosted? n = .ok (some q)) : q.boostable = true := by
  have whole : (c.fragment n.unweighed).result = .ok (some q) := by
    have same : c.unboosted? n.unweighed = c.unboosted? n := rfl
    rw [fragment_result, same, made]
    rfl
  exact (unweighed_of_fragment standard whole).1

/-- The queries for operations have a place for a boost, so that there is nothing to report. -/
theorem events_fragment (standard : c.style = .standard) (n : Criterion) :
    (c.fragment n).events = [] := by
  unfold fragment
  cases made : c.unboosted? n with
  | error f => rfl
  | ok r =>
    cases r with
    | none => rfl
    | some q =>
      have room := boostable_of_unboosted? standard made
      exact (Traced.events_bind_pure _ _).trans (events_boosted room n.boost)

end Fragment

section Chain

/-- The criteria of a chain in front of the first one that is refused. -/
def reached (c : Compiler) (chain : Chain) : Chain :=
  chain.takeWhile fun n => (c.fragment n).result.isOk

/-- The criteria that are left out, as far as a pass over the chain comes. -/
def omitted (c : Compiler) (chain : Chain) : Chain :=
  (c.reached chain).filter fun n => (c.fragmentOf n).isNone

theorem isOk_fragment_iff :
    (c.fragment n).result.isOk = true ↔ ∃ r, (c.fragment n).result = .ok r := by
  cases (c.fragment n).result <;> simp [Except.isOk, Except.toBool]

theorem reached_of_fragments (made : ∀ n ∈ chain, ∃ r, (c.fragment n).result = .ok r) :
    c.reached chain = chain := by
  rw [reached, List.takeWhile_eq_self_iff]
  exact fun n member => isOk_fragment_iff.mpr (made n member)

theorem reached_of_refused {before after : Chain} {f : Failure}
    (made : ∀ m ∈ before, ∃ r, (c.fragment m).result = .ok r)
    (refused : (c.fragment n).result = .error f) : c.reached (before ++ n :: after) = before := by
  have front := reached_of_fragments made
  unfold reached at front ⊢
  rw [List.takeWhile_append_of_pos fun m member => isOk_fragment_iff.mpr (made m member),
    List.takeWhile_cons_of_neg, List.append_nil]
  simp [refused, Except.isOk, Except.toBool]

theorem omitted_of_fragments
    (fragments : ∀ n ∈ chain, (c.fragment n).result = .ok (c.fragmentOf n)) :
    c.omitted chain = chain.filter fun n => (c.fragmentOf n).isNone := by
  rw [omitted, reached_of_fragments fun n member => ⟨_, fragments n member⟩]

theorem omitted_cons (n : Criterion) (ns : Chain) :
    c.omitted (n :: ns) = match (c.fragment n).result with
      | .error _ => []
      | .ok none => n :: c.omitted ns
      | .ok (some _) => c.omitted ns := by
  unfold omitted reached
  cases first : (c.fragment n).result with
  | error f => simp [first, Except.isOk, Except.toBool]
  | ok r => cases r <;> simp [first, Except.isOk, Except.toBool, fragmentOf_eq first]

/-- What one criterion adds to the report: nothing when it has a clause, itself when it is left out,
and the end of it when it is refused. -/
theorem events_gather_cons (standard : c.style = .standard) (n : Criterion) (ns : Chain) :
    (c.gather (n :: ns)).events = match (c.fragment n).result with
      | .error _ => []
      | .ok none => Event.omitted n :: (c.gather ns).events
      | .ok (some _) => (c.gather ns).events := by
  have silent := events_fragment standard n
  rw [gather]
  cases first : (c.fragment n).result with
  | error f => rw [Traced.events_bind_error first, silent]
  | ok r =>
    rw [Traced.events_bind_ok first, silent]
    cases r with
    | none => rfl
    | some q => exact Traced.events_bind_pure _ _

/-- A pass over a chain reports the criteria that it leaves out, one by one. -/
theorem events_gather (standard : c.style = .standard) (chain : Chain) :
    (c.gather chain).events = (c.omitted chain).map Event.omitted := by
  induction chain with
  | nil => rfl
  | cons n ns ih =>
    rw [events_gather_cons standard, omitted_cons, ih]
    split <;> rfl

/-- What is said in the end: the summary of a query, if there is one. -/
def conclusion : Except Failure (Option Query) → List String
  | .ok (some q) => [q.summary]
  | .ok none | .error _ => []

theorem events_compile (standard : c.style = .standard) (said : node.entries ≠ []) :
    (c.compile node chain).events = (c.omitted chain).map Event.omitted ++
      (conclusion (c.compile node chain).result).map fun text => ⟨.debug, .ok text⟩ := by
  have full : node.entries.isEmpty = false := by simpa using said
  rw [← events_gather standard, compile_result said, compile, Traced.events_bind_pure, clauses,
    full]
  simp only [Bool.false_eq_true, if_false]
  cases gathered : (c.gather chain).result with
  | error f => exact (Traced.events_bind_error gathered _).trans (List.append_nil _).symm
  | ok cs =>
    rw [Traced.events_bind_ok gathered]
    cases empty : cs.isEmpty with
    | true => simp [Except.map, empty, conclusion]
    | false => simp [Except.map, empty, conclusion, cs.summary_toQuery]

/-- Where there is no query, no criterion has a clause. -/
theorem omitted_of_silent (said : node.entries ≠ [])
    (silent : (c.compile node chain).result = .ok none) : c.omitted chain = chain := by
  obtain ⟨fragments, whole⟩ := compile_eq_ok said silent
  have empty : (Clauses.routed c.fragmentOf chain).isEmpty = true := by
    by_contra full
    simp [full] at whole
  rw [omitted_of_fragments fragments, List.filter_eq_self]
  intro n member
  rw [(Clauses.routed_isEmpty_iff c.fragmentOf chain).mp empty n member]
  rfl

/-- The clauses of a query and the criteria that are left out make up the chain. -/
theorem length_omitted (compiled : (c.compile node chain).result = .ok (some q)) :
    (q.clausesIn .should).length + (q.clausesIn .mustNot).length + (q.clausesIn .must).length +
      (c.omitted chain).length = chain.length := by
  obtain ⟨fragments, rfl⟩ := compile_eq_some compiled
  rw [omitted_of_fragments fragments, Clauses.toQuery_eq]
  exact Clauses.length_routed c.fragmentOf chain

/-- Where all fields that are named can be written out, the report is a list of texts. -/
theorem events_compile_of_writable (standard : c.style = .standard) (said : node.entries ≠ [])
    (writable : ∀ n ∈ c.omitted chain, n.field.isWritable = true) :
    (c.compile node chain).events =
      ((c.omitted chain).map (fun n => Event.omission n.field.plain) ++
        conclusion (c.compile node chain).result).map fun text => ⟨.debug, .ok text⟩ := by
  have named : (c.omitted chain).map Event.omitted =
      (c.omitted chain).map fun n => ⟨.debug, .ok (Event.omission n.field.plain)⟩ := by
    refine List.map_congr_left fun n member => ?_
    simp [Event.omitted, Value.written?, writable n member, Except.map]
  rw [events_compile standard said, named, List.map_append, List.map_map]
  rfl

end Chain

/-- Every criterion of a chain is accounted for in what compiling the chain reports, at the level
for debugging. One report names the field of each criterion that is left out, in the order of the
chain and up to the first criterion that is refused; the summary follows exactly when there is a
query. The summary counts the clauses in its slots, and these and the criteria that are left out
make up the chain. A chain without a query is left out as a whole. Where the fields can be written
out, a logger puts out these texts and nothing else. -/
theorem reports_of_compile (c : Compiler) (standard : c.style = .standard) (node : Criterion)
    (chain : Chain) (said : node.entries ≠ []) (l : Logger)
    (level : l.level = Severity.debug.rank) :
    let t := c.compile node chain
    let omitted := c.omitted chain
    t.events.filter l.passes =
        omitted.map Event.omitted ++ (conclusion t.result).map (fun text => ⟨.debug, .ok text⟩) ∧
      (∀ f, t.result = .error f → ∃ before n after, chain = before ++ n :: after ∧
        c.reached chain = before ∧ (c.fragment n).result = .error f) ∧
      (t.result = .ok none → omitted = chain) ∧
      (∀ q, t.result = .ok (some q) → c.reached chain = chain ∧
        (q.clausesIn .should).length + (q.clausesIn .mustNot).length +
          (q.clausesIn .must).length + omitted.length = chain.length) ∧
      ((∀ n ∈ omitted, n.field.isWritable = true) → l.record t =
        (l.shown (omitted.map (fun n => Event.omission n.field.plain) ++ conclusion t.result),
          t.result)) := by
  intro t omitted
  refine ⟨?_, fun f refused => ?_, fun silent => ?_, fun q compiled => ?_, fun writable => ?_⟩
  · rw [Logger.filter_passes level]
    exact events_compile standard said
  · have gathered := (compile_eq_error_iff_gather.mp refused).2
    obtain ⟨before, n, after, rfl, made, last⟩ := gather_eq_error_iff.mp gathered
    exact ⟨before, n, after, rfl, reached_of_refused made last, last⟩
  · exact omitted_of_silent said silent
  · have fragments := (compile_eq_some compiled).1
    exact ⟨reached_of_fragments fun n member => ⟨_, fragments n member⟩, length_omitted compiled⟩
  · exact Logger.record_texts level (events_compile_of_writable standard said writable)

/-- A criterion without a name, behind one that asks for nothing and in front of one that does not
say anything. -/
def sampleNameless : Chain :=
  [⟨.text "note", [⟨.equals, .null⟩], .plainNaN, true, true⟩, sampleNode,
    ⟨.null, [⟨.fuzzy, .null⟩], .plainNaN, false, false⟩, .start (.text "rate") false]

theorem reports_of_compile_sample :
    let c := Compiler.ofConfig .default
    let l := Logger.embedded
    c.style = .standard ∧ l.level = Severity.debug.rank ∧ sampleNode.entries ≠ [] ∧
      (l.record (c.compile sampleNode sampleChain)).1 =
        ⟨["DEBUG Criteria on note contributes no clause",
          "DEBUG Compiled 1 should, 1 must_not, 1 must clauses"], ""⟩ ∧
      l.record (c.compile sampleNode sampleNameless) =
        (⟨["DEBUG Criteria on note contributes no clause"], ""⟩, .error (.field .unknown)) := by
  intro c l
  have said : sampleNode.entries ≠ [] := List.cons_ne_nil _ _
  have reports (chain : Chain) := reports_of_compile c rfl sampleNode chain said l rfl
  obtain ⟨_, _, _, _, shown⟩ := reports sampleChain
  obtain ⟨_, _, _, _, cut⟩ := reports sampleNameless
  refine ⟨rfl, rfl, said, ?_, ?_⟩
  · rw [shown (by decide +kernel)]
    decide +kernel
  · rw [cut (by decide +kernel)]
    rfl

end Compiler
end SearchCriteria
