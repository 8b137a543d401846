import Mathlib.Algebra.Group.Int.Defs
import SearchCriteria.Proofs.RoundTrip
import SearchCriteria.Proofs.Routing
import SearchCriteria.Proofs.Settings
import SearchCriteria.Proofs.Written

/-! What a compiler refuses. What calls can put into a criterion fits the operation that it stands
under, so that the queries themselves are never refused. What is left is a field without a name,
and a value that a query needs the text of and that cannot be written out. -/
namespace SearchCriteria

/-- The operations that put the text of their value into a query. -/
def Operation.isWorded : Operation → Bool
  | .contains | .startsWith | .endsWith | .expression | .fuzzy => true
  | .equals | .oneOf | .between => false

/-- An entry that needs the text of a value which cannot be written out. -/
def Entry.Unwritten (e : Entry) : Prop :=
  e.operation.isWorded = true ∧ e.value.isWritable = false

/-- A resolver that has a name for every name. -/
def Resolver.Total (r : Resolver) : Prop := ∀ s, ∃ t, r.apply? (.text s) = .ok (.text t)

/-- A compiler that makes the queries for the operations, with a configuration and a resolver that
keep to what is expected of them. -/
structure Compiler.Regular (c : Compiler) : Prop where
  style : c.style = .standard
  config : c.config.Valid
  resolver : ∀ r ∈ c.resolver, r.Total

/-- A name of a property, or none. -/
def Value.IsProperty (field : Value) : Prop := field = .null ∨ field.IsText

namespace Compiler
variable {c : Compiler} {op : Operation} {v : Value} {field : String} {e : Failure}

theorem regular_ofConfig {config : Config} (valid : config.Valid) : (ofConfig config).Regular where
  style := rfl
  config := valid
  resolver := nofun

section Queries

theorem fieldQuery?_text : fieldQuery? (.text field) v [] =
    .ok (.leaf (.field ⟨.null, field, v, .null⟩)) := rfl

theorem wildcard?_text (valid : c.config.Valid) (term : String) :
    ∃ q, c.wildcard? (.text field) term = .ok q := by
  obtain ⟨b, flag⟩ := valid.flag
  rw [wildcard?, flag]
  exact ⟨_, rfl⟩

/-- A query that needs the text of a value is refused only where there is none. -/
theorem written_eq_error_iff {q : String → Except Failure Query}
    (made : ∀ term, ∃ r, q term = .ok r) :
    (v.written? >>= q) = .error e ↔ v.isWritable = false ∧ e = .tooManyDigits := by
  rw [bind_eq_error_iff, Value.written?_eq_error_iff]
  refine or_iff_left ?_
  rintro ⟨term, _, refused⟩
  obtain ⟨r, same⟩ := made term
  rw [same] at refused
  contradiction

theorem unwritten_iff (worded : op.isWorded = true) :
    Entry.Unwritten ⟨op, v⟩ ↔ v.isWritable = false := and_iff_right worded

theorem not_unwritten (plain : op.isWorded = false) : ¬ Entry.Unwritten ⟨op, v⟩ := by
  intro unwritten
  exact Bool.noConfusion (plain.symm.trans unwritten.1)

/-- What an entry can hold fits its operation: there is a query for it, if the query can have the
text that it needs. -/
theorem standard?_eq_error_iff (valid : c.config.Valid) (accepted : Entry.Accepted ⟨op, v⟩)
    (present : v ≠ .null) : c.standard? op v (.text field) = .error e ↔
      Entry.Unwritten ⟨op, v⟩ ∧ e = .tooManyDigits := by
  have never {q : Query} (plain : op.isWorded = false)
      (made : c.standard? op v (.text field) = .ok q) :
      c.standard? op v (.text field) = .error e ↔ Entry.Unwritten ⟨op, v⟩ ∧ e = .tooManyDigits := by
    rw [made]
    simp [not_unwritten plain]
  cases op with
  | equals => exact never rfl rfl
  | between =>
    obtain absurd | ⟨lower, upper, rfl, _⟩ := accepted
    · contradiction
    · exact never rfl rfl
  | oneOf =>
    obtain absurd | ⟨items, rfl⟩ := accepted
    · contradiction
    · have each : (items.mapM fun item => fieldQuery? (.text field) item []) = .ok _ :=
        mapM_eq_ok_of_forall fun item _ => fieldQuery?_text
      exact never rfl (bind_eq_ok_iff.mpr ⟨items, rfl, bind_eq_ok_iff.mpr ⟨_, each, rfl⟩⟩)
  | contains | startsWith | endsWith =>
    rw [unwritten_iff rfl]
    exact written_eq_error_iff fun term => wildcard?_text valid _
  | expression | fuzzy =>
    rw [unwritten_iff rfl]
    exact written_eq_error_iff fun term => ⟨_, rfl⟩

theorem entry?_eq_error_iff (regular : c.Regular) (accepted : Entry.Accepted ⟨op, v⟩) :
    c.entry? op v (.text field) = .error e ↔ Entry.Unwritten ⟨op, v⟩ ∧ e = .tooManyDigits := by
  by_cases null : v = .null
  · subst null
    simp [ entry?, Value.isNull, Entry.Unwritten, Value.isWritable]
  · have some := Value.isNull_eq_false_iff.mpr null
    rw [← standard?_eq_error_iff regular.config accepted null]
    simp only [ entry?, some, regular.style, Bool.false_eq_true, if_false]
    cases c.standard? op v (.text field) <;> simp [Except.map]

theorem leaves?_eq_error_iff (regular : c.Regular) {es : List Entry}
    (accepted : ∀ x ∈ es, x.Accepted) : c.leaves? (.text field) es = .error e ↔
      (∃ x ∈ es, x.Unwritten) ∧ e = .tooManyDigits := by
  induction es with
  | nil => simp [leaves?]
  | cons x es ih =>
    rw [List.forall_mem_cons] at accepted
    have first {d : Failure} : c.entry? x.operation x.value (.text field) = .error d ↔ _ :=
      entry?_eq_error_iff regular accepted.1
    have rest := ih accepted.2
    simp only [leaves?, bind_eq_error_iff, List.exists_mem_cons_iff]
    constructor
    · rintro (refused | ⟨r, _, refused | ⟨qs, _, absurd⟩⟩)
      · obtain ⟨unwritten, same⟩ := first.mp refused
        exact ⟨.inl unwritten, same⟩
      · obtain ⟨unwritten, same⟩ := rest.mp refused
        exact ⟨.inr unwritten, same⟩
      · contradiction
    · rintro ⟨unwritten, rfl⟩
      cases made : c.entry? x.operation x.value (.text field) with
      | error d =>
        obtain ⟨_, rfl⟩ := first.mp made
        exact .inl rfl
      | ok r =>
        have written : ¬ x.Unwritten := by
          intro unwritten
          have refused := first.mpr ⟨unwritten, rfl⟩
          rw [made] at refused
          contradiction
        exact .inr ⟨r, rfl, .inl (rest.mpr ⟨unwritten.resolve_left written, rfl⟩)⟩

end Queries

section Fields
variable {s t : String}

/-- The name that the aliases give a property. One without an alias keeps its name. -/
def aliased (c : Compiler) (s : String) : String :=
  match Entries.named? s c.config.fieldAliases with
  | some (.text t) => t
  | _ => s

/-- The name of the document field for a property: aliases come first, and the resolver is asked
about what they give. -/
def ResolvesTo (c : Compiler) (s t : String) : Prop :=
  match c.resolver with
  | none => c.aliased s = t
  | some r => r.apply? (.text (c.aliased s)) = .ok (.text t)

theorem exists_resolvesTo (regular : c.Regular) (s : String) : ∃ t, c.ResolvesTo s t := by
  unfold ResolvesTo
  cases resolver : c.resolver with
  | none => exact ⟨_, rfl⟩
  | some r => exact regular.resolver r resolver _

theorem resolvesTo_unique {u : String} (first : c.ResolvesTo s t) (second : c.ResolvesTo s u) :
    t = u := by
  unfold ResolvesTo at first second
  cases resolver : c.resolver with
  | none =>
    rw [resolver] at first second
    exact first.symm.trans second
  | some r =>
    rw [resolver] at first second
    exact Value.text.inj (Except.ok.inj (first.symm.trans second))

theorem lookup?_aliases (valid : c.config.Valid) (s : String) : ∃ found,
    Value.lookup? c.config.fieldAliases (.text s) = .ok found ∧
      found.getD (.text s) = .text (c.aliased s) := by
  refine ⟨Entries.named? s c.config.fieldAliases, rfl, ?_⟩
  unfold aliased
  cases found : Entries.named? s c.config.fieldAliases with
  | none => rfl
  | some v =>
    obtain ⟨key, member⟩ := Entries.mem_of_named? found
    obtain ⟨name, rfl⟩ := (valid.aliases _ member).2
    rfl

/-- A property is refused when it resolves to the empty name, and gives a name otherwise. -/
theorem resolveField?_text (regular : c.Regular) (resolves : c.ResolvesTo s t) :
    c.resolveField? (.text s) =
      if t = "" then .error (.field (.unresolved (.text s))) else .ok (.text t) := by
  obtain ⟨found, lookup, name⟩ := lookup?_aliases regular.config s
  have answer : (if (Value.text t).truthy = true then Except.ok (Value.text t)
      else .error (Failure.quoting (.text s) (.field (.unresolved (.text s))))) =
        if t = "" then .error (.field (.unresolved (.text s))) else .ok (.text t) := by
    by_cases empty : t = "" <;> simp [Value.truthy, empty, Failure.quoting, Value.isWritable]
  rw [← answer]
  unfold ResolvesTo at resolves
  cases resolver : c.resolver with
  | none =>
    rw [resolver] at resolves
    simp only [resolveField?, lookup, ok_bind, resolver, name, resolves]
    rfl
  | some r =>
    rw [resolver] at resolves
    simp only [resolveField?, lookup, ok_bind, resolver, name, resolves]
    rfl

theorem resolveField?_null : c.resolveField? .null = .error (.field .unknown) := rfl

/-- What a property resolves to is a name. -/
theorem isText_of_resolveField? {v w : Value} (regular : c.Regular) (named : v.IsProperty)
    (resolved : c.resolveField? v = .ok w) : w.IsText := by
  obtain rfl | ⟨s, rfl⟩ := named
  · rw [resolveField?_null] at resolved
    contradiction
  · obtain ⟨t, resolves⟩ := exists_resolvesTo regular s
    rw [resolveField?_text regular resolves] at resolved
    split at resolved
    · contradiction
    · exact ⟨t, (Except.ok.inj resolved).symm⟩

end Fields

/-- What a criterion is refused for: it has entries, and either no name of a field, which is looked
at first, or an entry that needs a text which cannot be written out. -/
def Refuses (c : Compiler) (n : Criterion) (e : Failure) : Prop :=
  n.entries ≠ [] ∧
    ((n.field = .null ∧ e = .field .unknown) ∨
      (∃ s, n.field = .text s ∧ c.ResolvesTo s "" ∧ e = .field (.unresolved (.text s))) ∨
      ∃ s t, n.field = .text s ∧ c.ResolvesTo s t ∧ t ≠ "" ∧ (∃ x ∈ n.entries, x.Unwritten) ∧
        e = .tooManyDigits)

section Chain
variable {n : Criterion} {chain : Chain}

theorem unboosted?_eq_error_iff (said : n.entries ≠ []) : c.unboosted? n = .error e ↔
    c.resolveField? n.field = .error e ∨
      ∃ field, c.resolveField? n.field = .ok field ∧ c.leaves? field n.entries = .error e := by
  rw [unboosted?_eq said, bind_eq_error_iff]
  simp only [bind_eq_error_iff]
  simp [pure, Except.pure]

theorem fragment_eq_error_iff (regular : c.Regular) (accepted : n.Accepted)
    (named : n.entries ≠ [] → n.field.IsProperty) :
    (c.fragment n).result = .error e ↔ c.Refuses n e := by
  rw [fragment_result, map_eq_error_iff]
  by_cases said : n.entries = []
  · simp [unboosted?, Refuses, said]
  rw [unboosted?_eq_error_iff said, Refuses, and_iff_right said]
  obtain null | ⟨s, text⟩ := named said
  · simp [null, resolveField?_null, eq_comm]
  obtain ⟨t, resolves⟩ := exists_resolvesTo regular s
  rw [text, resolveField?_text regular resolves]
  by_cases empty : t = ""
  · subst empty
    constructor
    · rintro (refused | ⟨_, absurd, _⟩)
      · exact .inr (.inl ⟨s, rfl, resolves, (Except.error.inj refused).symm⟩)
      · contradiction
    · rintro (⟨absurd, _⟩ | ⟨_, same, _, rfl⟩ | ⟨_, u, same, other, named, _⟩)
      · contradiction
      · cases same
        exact .inl rfl
      · cases same
        exact absurd (resolvesTo_unique other resolves) named
  · have leaves : c.leaves? (.text t) n.entries = .error e ↔ _ :=
      leaves?_eq_error_iff regular accepted.entries
    rw [if_neg empty]
    constructor
    · rintro (absurd | ⟨field, same, refused⟩)
      · contradiction
      · cases same
        exact .inr (.inr ⟨s, t, rfl, resolves, empty, leaves.mp refused⟩)
    · rintro (⟨absurd, _⟩ | ⟨_, same, other, _⟩ | ⟨_, u, same, other, _, unwritten⟩)
      · contradiction
      · cases same
        exact absurd (resolvesTo_unique resolves other) empty
      · exact .inr ⟨_, rfl, leaves.mpr unwritten⟩

/-- A pass over a chain is refused exactly where the first of its criteria is. -/
theorem gather_eq_error_iff : (c.gather chain).result = .error e ↔
    ∃ before n after, chain = before ++ n :: after ∧
      (∀ m ∈ before, ∃ r, (c.fragment m).result = .ok r) ∧ (c.fragment n).result = .error e := by
  constructor
  · intro refused
    induction chain with
    | nil => contradiction
    | cons n ns ih =>
      cases first : (c.fragment n).result with
      | error d =>
        rw [gather_cons_error first] at refused
        cases refused
        exact ⟨[], n, ns, rfl, by simp, first⟩
      | ok r =>
        have rest : (c.gather ns).result = .error e := by
          cases r with
          | none => rwa [gather_cons_none first] at refused
          | some q => rwa [gather_cons_some first, map_eq_error_iff] at refused
        obtain ⟨before, m, after, rfl, ok, last⟩ := ih rest
        refine ⟨n :: before, m, after, rfl, ?_, last⟩
        simpa only [List.forall_mem_cons] using And.intro ⟨r, first⟩ ok
  · rintro ⟨before, n, after, rfl, ok, refused⟩
    exact gather_refused ok refused

theorem compile_eq_error_iff_gather {node : Criterion} :
    (c.compile node chain).result = .error e ↔
      node.entries ≠ [] ∧ (c.gather chain).result = .error e := by
  by_cases said : node.entries = []
  · simp [compile, clauses, said]
  · rw [compile_result said, map_eq_error_iff]
    exact (and_iff_right said).symm

/-- A chain whose criteria hold what they can hold is refused for the first criterion that is. -/
theorem compile_eq_error_iff {node : Criterion} (regular : c.Regular)
    (accepted : ∀ n ∈ chain, n.Accepted)
    (named : ∀ n ∈ chain, n.entries ≠ [] → n.field.IsProperty) :
    (c.compile node chain).result = .error e ↔ node.entries ≠ [] ∧
      ∃ before n after, chain = before ++ n :: after ∧ (∀ m ∈ before, ∀ d, ¬ c.Refuses m d) ∧
        c.Refuses n e := by
  rw [compile_eq_error_iff_gather, gather_eq_error_iff]
  have each {n : Criterion} (member : n ∈ chain) {d : Failure} :=
    fragment_eq_error_iff (e := d) regular (accepted n member) (named n member)
  have made {m : Criterion} (member : m ∈ chain) :
      (∃ r, (c.fragment m).result = .ok r) ↔ ∀ d, ¬ c.Refuses m d := by
    constructor
    · rintro ⟨r, made⟩ d refuses
      rw [(each member).mpr refuses] at made
      contradiction
    · intro never
      cases result : (c.fragment m).result with
      | ok r => exact ⟨r, rfl⟩
      | error d => exact (never d ((each member).mp result)).elim
  refine and_congr_right fun _ => exists_congr fun before => exists_congr fun n =>
    exists_congr fun after => and_congr_right ?_
  rintro rfl
  have earlier : ∀ m ∈ before, m ∈ before ++ n :: after := fun m member =>
    List.mem_append_left _ member
  rw [each (List.mem_append_right _ List.mem_cons_self)]
  exact and_congr_left fun _ => forall₂_congr fun m member => made (earlier m member)

end Chain
end Compiler

namespace Store

/-- Compiling any node that calls have made is refused exactly when the node has entries and some
criterion of its chain is to be refused, for the first of those. It is refused for its field, or
else for a value that a query needs the text of. -/
theorem compile_refused_iff (s : Store) (reached : Reachable s) (i : NodeId)
    (there : i < s.nodes.size) (named : ∀ n ∈ s.criteria i, n.field.IsProperty) (c : Compiler)
    (regular : c.Regular) (e : Failure) :
    (c.compile (s.node i).toCriterion (s.criteria i)).result = .error e ↔
      (s.node i).entries ≠ [] ∧ ∃ before n after, s.criteria i = before ++ n :: after ∧
        (∀ m ∈ before, ∀ d, ¬ c.Refuses m d) ∧ c.Refuses n e :=
  Compiler.compile_eq_error_iff regular ((sound_of_reachable reached).accepted_criteria there)
    fun n member _ => named n member

/-- A property without a name whose only entry asks for nothing, after a property that does not
say anything. -/
def namelessStore : Store :=
  run empty [.create (.text "rate") false none, .andField 0 .null, .constrain 1 (.equals .null)]

theorem compile_refused_nameless :
    (∀ n ∈ namelessStore.criteria 1, n.field.IsProperty) ∧
      ((Compiler.ofConfig .default).compile (namelessStore.node 1).toCriterion
        (namelessStore.criteria 1)).result = .error (.field .unknown) := by
  have reached : Reachable namelessStore := by
    simp only [namelessStore, run, List.foldl_cons, List.foldl_nil]
    iterate 3 refine Reachable.call ?_ (by decide)
    exact Reachable.empty
  have chain : namelessStore.criteria 1 = [.start (.text "rate") false,
      ⟨.null, [⟨.equals, .null⟩], .plainNaN, false, false⟩] := by decide
  have named : ∀ n ∈ namelessStore.criteria 1, n.field.IsProperty := by
    simp [chain, Criterion.start, Value.IsProperty, Value.IsText]
  have regular := Compiler.regular_ofConfig Config.valid_default
  refine ⟨named, (compile_refused_iff namelessStore reached 1 (by decide) named _ regular _).mpr
    ⟨by decide, [_], _, [], chain, ?_, by simp, .inl ⟨rfl, rfl⟩⟩⟩
  simp [Compiler.Refuses, Criterion.start]

/-- A field with a name does not keep a chain from being refused: a term with wildcards needs the
text of its value, and there are integers too long to have one. -/
theorem compile_refused_digits :
    let s := run empty [.create (.text "rate") false none,
      .constrain 0 (.contains (.int (10 ^ 4300)))]
    let c := Compiler.ofConfig .default
    (∀ n ∈ s.criteria 0, ∃ t, n.field = .text t ∧ t ≠ "" ∧ c.ResolvesTo t t) ∧
      (c.compile (s.node 0).toCriterion (s.criteria 0)).result = .error .tooManyDigits := by
  intro s c
  have chain : s.criteria 0 =
      [⟨.text "rate", [⟨.contains, .int (10 ^ 4300)⟩], .plainNaN, false, false⟩] := rfl
  have long : (Value.int (10 ^ 4300)).isWritable = false := by decide +kernel
  have resolves : c.ResolvesTo "rate" "rate" := rfl
  have accepted : ∀ n ∈ s.criteria 0, n.Accepted := by
    rw [chain, List.forall_mem_singleton]
    refine ⟨?_, rfl⟩
    rw [List.forall_mem_singleton]
    exact nofun
  have refuses : c.Refuses ⟨.text "rate", [⟨.contains, .int (10 ^ 4300)⟩], .plainNaN, false, false⟩
      .tooManyDigits := by
    refine ⟨List.cons_ne_nil _ _, .inr (.inr ⟨_, _, rfl, resolves, by decide, ?_, rfl⟩)⟩
    exact ⟨_, List.mem_cons_self, rfl, long⟩
  constructor
  · rw [chain, List.forall_mem_singleton]
    exact ⟨_, rfl, by decide, resolves⟩
  · have named : ∀ n ∈ s.criteria 0, n.entries ≠ [] → n.field.IsProperty := by
      rw [chain, List.forall_mem_singleton]
      exact fun _ => .inr ⟨_, rfl⟩
    have regular : c.Regular := Compiler.regular_ofConfig Config.valid_default
    exact (Compiler.compile_eq_error_iff regular accepted named).mpr
      ⟨List.cons_ne_nil _ _, [], _, [], chain, by simp, refuses⟩

end Store
end SearchCriteria
