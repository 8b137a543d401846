import SearchCriteria.Proofs.Terms

/-! Terms as they are printed and as they are searched for. A term is printed with the text that the
engine is given for it, unless its value is null. Null under an operation is no condition, so that it
comes into a term only as one of several values to choose from. -/
namespace SearchCriteria

namespace FieldQuery
variable {p : FieldQuery}

/-- What the printed form and the text to search for have in common. -/
theorem termText_eq_searchText {v : Value} (present : v ≠ .null) : termText v = searchText v := by
  cases v with
  | null => contradiction
  | _ => rfl

/-- A term is printed as its field, a colon, the text to search for and its boost, but for null. -/
theorem text_iff : p.text = p.field ++ ":" ++ searchText p.value ++ boostText p.boost ↔
    p.value ≠ .null := by
  constructor
  · intro same null
    rw [text, null, String.append_left_inj, String.append_right_inj] at same
    exact absurd same (by decide)
  · intro present
    rw [text, termText_eq_searchText present]

end FieldQuery

namespace Query

/-- The leaves of a query at any depth. -/
inductive LeafOf (l : Leaf) : Query → Prop where
  | self : LeafOf l (.leaf l)
  | within {b : Value} {s n m : List Query} {q : Query} :
    q ∈ s ++ n ++ m → LeafOf l q → LeafOf l (.bool b s n m)

/-- A query with a term for a value in it, at any depth. -/
def SearchesFor (q : Query) (v : Value) : Prop := ∃ p : FieldQuery, LeafOf (.field p) q ∧ p.value = v

section LeafOf
variable {l k : Leaf} {q : Query} {b v w : Value} {s n m : List Query} {x : Binary64}

theorem leafOf_leaf_iff : LeafOf l (.leaf k) ↔ l = k := by
  constructor
  · rintro ⟨⟩
    rfl
  · rintro rfl
    exact .self

theorem leafOf_bool_iff : LeafOf l (.bool b s n m) ↔ ∃ q ∈ s ++ n ++ m, LeafOf l q := by
  constructor
  · intro leaf
    cases leaf with
    | within member inner => exact ⟨_, member, inner⟩
  · rintro ⟨q, member, inner⟩
    exact .within member inner

theorem searchesFor_field_iff {p : FieldQuery} : (leaf (.field p)).SearchesFor v ↔ p.value = v := by
  simp [SearchesFor, leafOf_leaf_iff]

theorem searchesFor_bool_iff :
    (Query.bool b s n m).SearchesFor v ↔ ∃ q ∈ s ++ n ++ m, q.SearchesFor v := by
  simp only [SearchesFor, leafOf_bool_iff]
  constructor
  · rintro ⟨p, ⟨q, member, inner⟩, value⟩
    exact ⟨q, member, p, inner, value⟩
  · rintro ⟨q, member, p, inner, value⟩
    exact ⟨p, ⟨q, member, inner⟩, value⟩

/-- A boost changes no value that is searched for. -/
theorem searchesFor_under_iff : (q.under x).SearchesFor v ↔ q.SearchesFor v := by
  unfold under
  split
  · exact .rfl
  · cases q with
    | foreign y => exact .rfl
    | bool b s n m => exact searchesFor_bool_iff.trans searchesFor_bool_iff.symm
    | leaf l =>
      cases l with
      | field p =>
        change (leaf (.field { p with boost := .float x })).SearchesFor v ↔ _
        rw [searchesFor_field_iff, searchesFor_field_iff]
      | text p | range p | fuzzy p | raw body =>
        simp [SearchesFor, withBoost?, Leaf.withBoost?, leafOf_leaf_iff]

/-- A leaf is rendered as a clause of what the query is rendered as. -/
theorem LeafOf.clauseOf (leaf : LeafOf l q) (rendered : q.render? = .ok v) :
    l.render.ClauseOf v := by
  induction leaf generalizing v with
  | self =>
    obtain ⟨_, rfl⟩ := render?_leaf_eq_ok_iff.mp rendered
    exact .self _
  | @within b s n m q member _ ih =>
    obtain ⟨vs, vn, vm, should, mustNot, must, rfl⟩ := render?_bool_eq_ok_iff.mp rendered
    have all : (s ++ n ++ m).mapM render? = .ok (vs ++ vn ++ vm) := by
      simp [List.mapM_append, should, mustNot, must, pure, Except.pure]
    obtain ⟨w, single⟩ := exists_mapM_iff.mp ⟨_, all⟩ q member
    have clause := (mem_of_mapM all).mpr ⟨q, member, single⟩
    rw [← clauses_renderedBody b] at clause
    exact .within rfl clause (ih single)

end LeafOf
end Query

/-- The values that an entry makes terms of. -/
def Entry.Yields (e : Entry) (v : Value) : Prop :=
  match e.operation with
  | .equals => v = e.value
  | .contains | .startsWith | .endsWith =>
    ∃ t, e.operation.pattern? e.value.plain = some t ∧ v = .text t
  | .oneOf => ∃ items, e.value = .list items ∧ v ∈ items
  | .expression | .between | .fuzzy => False

/-- A term for null is made of one of several values only. -/
theorem Entry.yields_null_iff {e : Entry} (present : e.value ≠ .null) : e.Yields .null ↔
    e.operation = .oneOf ∧ ∃ items, e.value = .list items ∧ .null ∈ items := by
  have absent : ¬ .null = e.value := Ne.symm present
  cases operation : e.operation <;> simp [Entry.Yields, operation, absent]

namespace Compiler
variable {c : Compiler} {op : Operation} {v w field : Value} {q f : Query} {n node : Criterion}
  {chain : Chain}

theorem searchesFor_standard?_iff (accepted : Entry.Accepted ⟨op, v⟩) (present : v ≠ .null)
    (made : c.standard? op v field = .ok q) : q.SearchesFor w ↔ Entry.Yields ⟨op, v⟩ w := by
  cases op with
  | equals =>
    obtain ⟨name, mark, rfl, _⟩ := field_of_fieldQuery? rfl made
    exact Query.searchesFor_field_iff.trans eq_comm
  | contains | startsWith | endsWith =>
    obtain ⟨name, mark, rfl⟩ := field_of_pattern rfl made
    rw [Query.searchesFor_field_iff]
    simp [Entry.Yields, Operation.pattern?, eq_comm]
  | expression | fuzzy =>
    obtain ⟨t, _, rest⟩ := bind_eq_ok_iff.mp made
    obtain ⟨r, _, rfl⟩ := Checked.map_eq_ok_iff.mp (Checked.orInvalid_eq_ok_iff.mp rest)
    simp [Query.SearchesFor, Query.leafOf_leaf_iff, Entry.Yields]
  | between =>
    obtain absurd | ⟨lower, upper, rfl, _⟩ := accepted
    · contradiction
    · obtain ⟨name, rfl⟩ := RecordKind.range_of_ofValue? made
      simp [Query.SearchesFor, Query.leafOf_leaf_iff, Entry.Yields]
  | oneOf =>
    obtain absurd | ⟨items, rfl⟩ := accepted
    · contradiction
    · obtain ⟨_, qs, ⟨⟩, each, rfl⟩ := items_of_standard? made
      rw [Query.searchesFor_bool_iff, List.append_nil, List.append_nil]
      constructor
      · rintro ⟨p, member, searches⟩
        obtain ⟨item, listed, single⟩ := (mem_of_mapM each).mp member
        obtain ⟨name, mark, rfl, _⟩ := field_of_fieldQuery? rfl single
        rw [Query.searchesFor_field_iff] at searches
        exact ⟨items, rfl, searches ▸ listed⟩
      · rintro ⟨_, ⟨⟩, listed⟩
        obtain ⟨p, single⟩ := exists_mapM_iff.mp ⟨qs, each⟩ w listed
        obtain ⟨name, mark, rfl, _⟩ := field_of_fieldQuery? rfl single
        exact ⟨_, (mem_of_mapM each).mpr ⟨w, listed, single⟩, Query.searchesFor_field_iff.mpr rfl⟩

theorem searchesFor_fragment_iff (standard : c.style = .standard) (accepted : n.Accepted)
    (made : (c.fragment n).result = .ok (some f)) :
    f.SearchesFor w ↔ ∃ e ∈ n.entries, e.value ≠ .null ∧ e.Yields w := by
  obtain ⟨field, qs, q, _, leaves, rfl, shape⟩ := fragment_eq_some made
  have joined : q.SearchesFor w ↔ ∃ p ∈ qs, p.SearchesFor w := by
    obtain rfl | ⟨_, rfl⟩ := shape
    · simp
    · exact Query.searchesFor_bool_iff
  rw [Query.searchesFor_under_iff, joined]
  exact exists_made_iff standard leaves fun e entry present _ whole =>
    searchesFor_standard?_iff (accepted.entries e entry) present whole

/-- What the terms of a compiled chain search for is what its entries make terms of. -/
theorem searchesFor_compile_iff (standard : c.style = .standard)
    (accepted : ∀ n ∈ chain, n.Accepted)
    (compiled : (c.compile node chain).result = .ok (some q)) :
    q.SearchesFor w ↔ ∃ n ∈ chain, ∃ e ∈ n.entries, e.value ≠ .null ∧ e.Yields w := by
  obtain ⟨fragments, rfl⟩ := compile_eq_some compiled
  have each : ∀ n ∈ chain, ∀ f, (c.fragment n).result = .ok (some f) → (f.SearchesFor w ↔ _) :=
    fun n listed f => searchesFor_fragment_iff standard (accepted n listed)
  rw [Clauses.toQuery_eq, Query.searchesFor_bool_iff]
  refine (exists_clause_iff fragments each).trans (exists_congr fun n => and_congr_right fun _ => ?_)
  refine and_iff_right_of_imp ?_
  rintro ⟨e, entry, present, _⟩
  exact ⟨e, entry, present⟩

end Compiler

namespace Store

/-- The terms of a chain that calls have made, as they are printed and as they are searched for. Each
is made of an entry and rendered at its place. It is printed as its field, a colon and the text that
the engine is given for it, up to its boost, exactly when its value is not null. All terms are
printed so when there is no null among the values that an entry gives to choose from. -/
theorem terms_printed_iff (s : Store) (reached : Reachable s) (i : NodeId)
    (there : i < s.nodes.size) (c : Compiler) (standard : c.style = .standard) (q : Query)
    (compiled : (c.compile (s.node i).toCriterion (s.criteria i)).result = .ok (some q)) :
    (∀ p : FieldQuery, q.LeafOf (.field p) →
      (∃ n ∈ s.criteria i, ∃ e ∈ n.entries, e.value ≠ .null ∧ e.Yields p.value) ∧
      (∀ v, q.render? = .ok v → (Leaf.field p).render.ClauseOf v) ∧
      ∃ args f t, (Leaf.field p).render.arguments? = some ("query_string", args) ∧
        Entries.named? "default_field" args = some (.text f) ∧
        Entries.named? "query" args = some (.text t) ∧
        (p.text = f ++ ":" ++ t ++ boostText p.boost ↔ p.value ≠ .null)) ∧
    ((∀ p : FieldQuery, q.LeafOf (.field p) →
        p.text = p.field ++ ":" ++ searchText p.value ++ boostText p.boost) ↔
      ∀ n ∈ s.criteria i, ∀ e ∈ n.entries, e.operation = .oneOf →
        ∀ items, e.value = .list items → .null ∉ items) := by
  have accepted := (sound_of_reachable reached).accepted_criteria there
  have searched (w : Value) : q.SearchesFor w ↔ _ :=
    Compiler.searchesFor_compile_iff standard accepted compiled
  constructor
  · intro p leaf
    exact ⟨(searched p.value).mp ⟨p, leaf, rfl⟩, fun v rendered => leaf.clauseOf rendered,
      _, p.field, searchText p.value, rfl, rfl, rfl, p.text_iff⟩
  · have none : (∀ p : FieldQuery, q.LeafOf (.field p) → p.value ≠ .null) ↔
        ¬ q.SearchesFor .null := by
      simp [Query.SearchesFor]
    simp only [FieldQuery.text_iff, none, searched]
    push Not
    constructor
    · intro all n listed e entry choice items collection missing
      have present : e.value ≠ .null := by simp [collection]
      exact all n listed e entry present
        ((e.yields_null_iff present).mpr ⟨choice, items, collection, missing⟩)
    · intro all n listed e entry present yields
      obtain ⟨choice, items, collection, missing⟩ := (e.yields_null_iff present).mp yields
      exact all n listed e entry choice items collection missing

/-- A choice with null among its values, under a boost. -/
def openChoiceStore : Store :=
  run empty [.create (.text "type") false none,
    .constrain 0 (.oneOf (.list [.null, .text "hotel"])), .boostBy 0 (.int 2)]

theorem terms_printed_sample :
    let c := Compiler.ofConfig .default
    Reachable openChoiceStore ∧ 0 < openChoiceStore.nodes.size ∧ c.style = .standard ∧ ∃ q,
      (c.compile (openChoiceStore.node 0).toCriterion (openChoiceStore.criteria 0)).result =
        .ok (some q) ∧
      ¬ ∀ p : FieldQuery, q.LeafOf (.field p) →
        p.text = p.field ++ ":" ++ searchText p.value ++ boostText p.boost := by
  intro c
  have reached : Reachable openChoiceStore := reachable_run .empty (by decide)
  have there : 0 < openChoiceStore.nodes.size := by decide
  refine ⟨reached, there, rfl, _, rfl, ?_⟩
  rw [(terms_printed_iff openChoiceStore reached 0 there c rfl _ rfl).2]
  intro all
  exact all _ List.mem_cons_self _ List.mem_cons_self rfl _ rfl List.mem_cons_self

/-- The term for null is printed as one for anything, and searches for a word. -/
theorem null_printed_otherwise :
    let c := Compiler.ofConfig .default
    let p : FieldQuery := ⟨.null, "type", .null, .null⟩
    ∃ q, (c.compile (openChoiceStore.node 0).toCriterion (openChoiceStore.criteria 0)).result =
        .ok (some q) ∧ q.LeafOf (.field p) ∧ p.text = "type:*" ∧
      (Leaf.field p).render? = .ok (named "query_string" (.map [(.text "query", .text "None"),
        (.text "default_field", .text "type")])) := by
  intro c p
  exact ⟨_, rfl, .within List.mem_cons_self (.within List.mem_cons_self .self), rfl, rfl⟩

end Store
end SearchCriteria
