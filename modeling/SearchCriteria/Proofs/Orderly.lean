import SearchCriteria.Proofs.Leaves
import SearchCriteria.Proofs.Membership
import SearchCriteria.Proofs.RoundTrip
import SearchCriteria.Proofs.Settings

/-! What the clauses of a rendered chain look like, however deep they are. What calls can put into a
chain keeps a range from being open on both sides, and a boost from being below zero or no number. -/
namespace SearchCriteria

namespace Value

/-- The clauses of a rendered query at any depth: the query itself, and those of its own clauses. -/
inductive ClauseOf : Value → Value → Prop where
  | self (v : Value) : ClauseOf v v
  | within {u v w : Value} {body : Entries} :
    v.boolBody? = some body → w ∈ clauses body → ClauseOf u w → ClauseOf u v

/-- The kind of a rendered clause and its innermost arguments. -/
def arguments? : Value → Option (String × Entries)
  | .map [(.text "bool", .map args)] => some ("bool", args)
  | .map [(.text "query_string", .map args)] => some ("query_string", args)
  | .map [(.text "range", .map [(.text _, .map args)])] => some ("range", args)
  | .map [(.text "fuzzy", .map [(.text _, .map args)])] => some ("fuzzy", args)
  | _ => none

/-- A boost that is set: a number, and not one below zero. -/
def IsBoost (b : Value) : Prop := ∃ x, b = .float x ∧ x.isNaN = false ∧ x.isNegative = false

/-- A clause as it is expected to be: of a known kind, under no boost but a proper one, and bounded
on a side with the bounds included where it is a range. -/
def Orderly (v : Value) : Prop :=
  ∃ kind args, v.arguments? = some (kind, args) ∧
    (∀ b, Entries.named? "boost" args = some b → b.IsBoost) ∧
    (kind = "range" →
      (Entries.named? "gte" args ≠ none ∨ Entries.named? "lte" args ≠ none) ∧
      Entries.named? "gt" args = none ∧ Entries.named? "lt" args = none)

end Value

/-- A leaf that is orderly when it is rendered. -/
def Leaf.Orderly (l : Leaf) : Prop :=
  l.boostable = true ∧ (l.boost = .null ∨ l.boost.IsBoost) ∧
    ∀ r, l = .range r → r.includeLower = true ∧ r.includeUpper = true ∧
      ¬ (r.lower = .null ∧ r.upper = .null)

/-- A query all of whose leaves are orderly, under no boost but a proper one. -/
inductive Query.Orderly : Query → Prop where
  | leaf {l : Leaf} : l.Orderly → Orderly (.leaf l)
  | bool {b : Value} {s n m : List Query} : b = .null ∨ b.IsBoost →
    (∀ q ∈ s ++ n ++ m, Orderly q) → Orderly (.bool b s n m)

section Rendering
variable {b d : Value} {es : Entries} {l : Leaf} {q : Query}

theorem isBoost_of_argument (boost : b = .null ∨ b.IsBoost) (none : Entries.named? "boost" es = none)
    (found : Entries.named? "boost" (es ++ argument? "boost" b) = some d) : d.IsBoost := by
  rw [Entries.named?_append, none, Option.none_or, Entries.named?_argument?] at found
  split at found
  · rename_i present
    obtain rfl := Option.some.inj found
    exact boost.resolve_left present.2
  · contradiction

theorem Leaf.orderly_render (orderly : l.Orderly) : l.render.Orderly := by
  obtain ⟨typed, boost, range⟩ := orderly
  cases l with
  | raw body => contradiction
  | field q | text q | fuzzy q =>
    exact ⟨_, _, rfl, fun d => isBoost_of_argument boost (by simp), by simp⟩
  | range q =>
    obtain ⟨lower, upper, closed⟩ := range q rfl
    refine ⟨"range", _, rfl, fun d => isBoost_of_argument boost ?_, fun _ => ?_⟩
    · simp [Entries.named?_append, lower, upper]
    · have some : q.lower ≠ .null ∨ q.upper ≠ .null := by
        rw [← not_and_or]
        exact closed
      simpa [Entries.named?_append, lower, upper] using some

/-- Every clause of an orderly query is orderly, at any depth. The depth is that of the clause: what
stands below a bool was rendered from one of its clauses. -/
theorem Query.Orderly.clauses (orderly : q.Orderly) {v w : Value} (rendered : q.render? = .ok v)
    (inside : w.ClauseOf v) : w.Orderly := by
  induction orderly generalizing v with
  | @leaf l orderly =>
    obtain ⟨_, rfl⟩ := Query.render?_leaf_eq_ok_iff.mp rendered
    cases inside with
    | self => exact Leaf.orderly_render orderly
    | within shape _ _ =>
      rw [Leaf.boolBody?_render orderly.1] at shape
      contradiction
  | @bool b s n m boost _ ih =>
    obtain ⟨vs, vn, vm, should, mustNot, must, rfl⟩ := Query.render?_bool_eq_ok_iff.mp rendered
    cases inside with
    | self =>
      refine ⟨"bool", _, rfl, fun d => isBoost_of_argument boost ?_, by simp⟩
      simp [Entries.named?_append]
    | within shape member deeper =>
      -- The clause deeper down is one of what a single clause of the query was rendered into.
      obtain rfl := Option.some.inj shape
      have all : (s ++ n ++ m).mapM Query.render? = .ok (vs ++ vn ++ vm) := by
        simp [List.mapM_append, should, mustNot, must, pure, Except.pure]
      rw [clauses_renderedBody] at member
      obtain ⟨q, clause, single⟩ := (mem_of_mapM all).mp member
      exact ih q clause single deeper

end Rendering

section Records
variable {k : RecordKind} {es : Entries} {field lower upper : Value} {q : Query}

theorem RangeQuery.ofEntries_bounds : RangeQuery.ofEntries
    [(.text "field", field), (.text "from_", lower), (.text "to", upper)] =
      (fun name => ⟨.null, name, lower, upper, true, true⟩) <$>
        (Rule.text field).within (.name "field") := by
  have name : Entries.required "field" Rule.text
      [(.text "field", field), (.text "from_", lower), (.text "to", upper)] =
        (Rule.text field).within (.name "field") := rfl
  rw [RangeQuery.ofEntries, name]
  cases (Rule.text field).within (.name "field") <;> rfl

/-- A range that is described by its bounds includes them. -/
theorem RecordKind.range_of_ofValue? (made : RecordKind.range.ofValue?
    (.map [(.text "field", field), (.text "from_", lower), (.text "to", upper)]) = .ok q) :
    ∃ name, q = .leaf (.range ⟨.null, name, lower, upper, true, true⟩) := by
  obtain ⟨r, record, rfl⟩ := Checked.map_eq_ok_iff.mp (Checked.orInvalid_eq_ok_iff.mp made)
  rw [RangeQuery.ofEntries_bounds] at record
  obtain ⟨name, _, rfl⟩ := Checked.map_eq_ok_iff.mp record
  exact ⟨name, rfl⟩

/-- A record of another kind is no range, whatever it holds. -/
theorem RecordKind.orderly_of_ofValue? (kind : k.boostable = true) (other : k ≠ .range)
    (none : Entries.named? "boost" es = none) (made : k.ofValue? (.map es) = .ok q) :
    q.Orderly := by
  obtain ⟨l, rfl, typed, null⟩ := RecordKind.fresh_of_ofValue? kind none made
  refine .leaf ⟨typed, .inl null, ?_⟩
  rintro r rfl
  have described := Checked.orInvalid_eq_ok_iff.mp made
  cases k with
  | range | raw | sort | entry => contradiction
  | field | text | fuzzy =>
    obtain ⟨_, _, absurd⟩ := Checked.map_eq_ok_iff.mp described
    cases absurd

end Records

namespace Compiler
variable {c : Compiler} {op : Operation} {v field : Value} {q : Query} {n : Criterion}
  {chain : Chain}

theorem orderly_of_fieldQuery? {flag : Entries} (none : Entries.named? "boost" flag = none)
    (made : fieldQuery? field v flag = .ok q) : q.Orderly :=
  RecordKind.orderly_of_ofValue? rfl (by decide) (by simp [none]) made

theorem orderly_of_standard? (accepted : Entry.Accepted ⟨op, v⟩) (present : v ≠ .null)
    (made : c.standard? op v field = .ok q) : q.Orderly := by
  cases op with
  | equals => exact orderly_of_fieldQuery? rfl made
  | contains | startsWith | endsWith =>
    obtain ⟨s, _, term⟩ := bind_eq_ok_iff.mp made
    exact orderly_of_fieldQuery? (by simp) term
  | expression | fuzzy =>
    obtain ⟨s, _, term⟩ := bind_eq_ok_iff.mp made
    exact RecordKind.orderly_of_ofValue? rfl (by decide) (by simp) term
  | between =>
    -- A record takes two nulls as well: it is the calls that keep a range from having them.
    obtain absurd | ⟨lower, upper, rfl, closed⟩ := accepted
    · contradiction
    · obtain ⟨name, rfl⟩ := RecordKind.range_of_ofValue? made
      refine .leaf ⟨rfl, .inl rfl, ?_⟩
      rintro r ⟨⟩
      exact ⟨rfl, rfl, closed⟩
  | oneOf =>
    obtain ⟨items, qs, _, each, rfl⟩ := items_of_standard? made
    refine .bool (.inl rfl) fun p member => ?_
    rw [List.append_nil, List.append_nil] at member
    obtain ⟨item, _, single⟩ := (mem_of_mapM each).mp member
    exact orderly_of_fieldQuery? rfl single

theorem orderly_of_entry? {e : Entry} (standard : c.style = .standard) (accepted : e.Accepted)
    (made : c.entry? e.operation e.value field = .ok (some q)) : q.Orderly := by
  obtain ⟨present, whole⟩ := standard?_of_entry? standard made
  exact orderly_of_standard? accepted present whole

/-- A boost that a criterion can hold leaves a query orderly. One that is no number is not set. -/
theorem orderly_under (orderly : q.Orderly) {x : Binary64} (sign : x.isNegative = false) :
    (q.under x).Orderly := by
  unfold Query.under
  split
  · exact orderly
  · rename_i number
    have boost : (Value.float x).IsBoost := ⟨x, rfl, by simpa using number, sign⟩
    cases orderly with
    | bool _ clauses => exact .bool (.inr boost) clauses
    | @leaf l orderly =>
      obtain ⟨typed, _, range⟩ := orderly
      cases l with
      | raw body => contradiction
      | field q | text q | fuzzy q => exact .leaf ⟨rfl, .inr boost, by rintro r ⟨⟩⟩
      | range q =>
        refine .leaf ⟨rfl, .inr boost, ?_⟩
        rintro r ⟨⟩
        exact range q rfl

theorem orderly_of_fragment (standard : c.style = .standard) (accepted : n.Accepted)
    (made : (c.fragment n).result = .ok (some q)) : q.Orderly := by
  apply fragment_invariant _ _ _ made
  · intro qs each
    exact .bool (.inl rfl) each
  · intro p orderly
    exact orderly_under orderly accepted.boost
  · intro e entry field _ p first
    exact orderly_of_entry? standard (accepted.entries e entry) first

theorem orderly_of_compile {node : Criterion} (standard : c.style = .standard)
    (accepted : ∀ n ∈ chain, n.Accepted)
    (compiled : (c.compile node chain).result = .ok (some q)) : q.Orderly := by
  have each : ∀ n ∈ chain, ∀ f, (c.fragment n).result = .ok (some f) → f.Orderly :=
    fun n listed f => orderly_of_fragment standard (accepted n listed)
  obtain ⟨s, n, m, rfl, all⟩ := compile_invariant each compiled
  exact .bool (.inl rfl) all

end Compiler

namespace Store

/-- Whatever calls there were, every range is null or a pair with a bound, every choice null or a
list, and no boost is below zero. So all clauses of a compiled chain are orderly, at any depth:
every range has a bound and includes it, and every boost is a number that is not below zero. -/
theorem orderly_of_reachable (s : Store) (reached : Reachable s) (i : NodeId)
    (there : i < s.nodes.size) :
    (∀ e ∈ (s.node i).entries,
      (e.operation = .between → e.value = .null ∨ ∃ lower upper,
        e.value = .tuple [lower, upper] ∧ ¬ (lower = .null ∧ upper = .null)) ∧
      (e.operation = .oneOf → e.value = .null ∨ ∃ items, e.value = .list items)) ∧
    ((s.node i).boost.isNaN = true ∨ (s.node i).boost.isNegative = false) ∧
    ∀ c : Compiler, c.style = .standard → ∀ q,
      (c.compile (s.node i).toCriterion (s.criteria i)).result = .ok (some q) →
      ∀ v, q.render? = .ok v → ∀ w : Value, w.ClauseOf v → w.Orderly := by
  have sound := sound_of_reachable reached
  have accepted := sound.accepted i there
  refine ⟨fun e entry => ?_, .inr accepted.boost, fun c standard q compiled v rendered w inside => ?_⟩
  · have form := accepted.entries e entry
    constructor
    · intro range
      simpa only [Entry.Accepted, range] using form
    · intro choice
      simpa only [Entry.Accepted, choice] using form
  · have orderly : q.Orderly :=
      Compiler.orderly_of_compile standard (sound.accepted_criteria there) compiled
    exact orderly.clauses rendered inside

/-- A range and a term under an infinite boost, after a range and a boost that are refused, and
once more as an alternative. -/
def weighedStore : Store :=
  run empty [.create (.text "rate") false none, .constrain 0 (.atLeast (.int 1)),
    .constrain 0 (.between .null .null), .constrain 0 (.contains (.text "low")),
    .boostBy 0 (.float (.infinite false)), .boostBy 0 (.float (.infinite true)), .orNode 0 0]

theorem orderly_of_reachable_sample :
    let c := Compiler.ofConfig .default
    let range := named "range" (named "rate" (.map [(.text "gte", .int 1)]))
    Reachable weighedStore ∧ 1 < weighedStore.nodes.size ∧ c.style = .standard ∧ ∃ q v,
      (c.compile (weighedStore.node 1).toCriterion (weighedStore.criteria 1)).result =
        .ok (some q) ∧ q.render? = .ok v ∧ range.ClauseOf v ∧ range.Orderly ∧ v.Orderly := by
  intro c range
  have reached : Reachable weighedStore := reachable_run .empty (by decide)
  have there : 1 < weighedStore.nodes.size := by decide
  obtain ⟨_, _, clauses⟩ := orderly_of_reachable weighedStore reached 1 there
  have orderly := clauses c rfl _ rfl _ rfl
  suffices inside : range.ClauseOf _ from
    ⟨reached, there, rfl, _, _, rfl, rfl, inside, orderly range inside, orderly _ (.self _)⟩
  exact .within rfl List.mem_cons_self (.within rfl List.mem_cons_self (.self range))

end Store
end SearchCriteria
