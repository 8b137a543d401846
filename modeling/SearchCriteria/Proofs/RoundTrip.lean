import SearchCriteria.Proofs.Entries
import SearchCriteria.Proofs.Store

/-! Chains through plain data. What calls have put into a chain is taken again by the rules for
documents, and comes to the same entries, so that the chain that a snapshot describes has the same
snapshot. A file has no tuples, and its lists of two are as good. -/
namespace SearchCriteria

/-- The entry with a range as a list, as a file holds it. -/
def Entry.listed (e : Entry) : Entry :=
  match e.operation, e.value with
  | .between, .tuple bounds => { e with value := .list bounds }
  | _, _ => e

def Criterion.listed (c : Criterion) : Criterion := { c with entries := c.entries.map Entry.listed }

def Chain.listed (chain : Chain) : Chain := chain.map Criterion.listed

namespace Criterion
variable {c : Criterion} {e : Entry} {es : List Entry} {k : Constraint} {shown : List Value}

/-- A criterion with no boost has a boost that is no number. A document does not tell which. -/
def settled (c : Criterion) : Criterion :=
  { c with boost := if c.hasBoost then c.boost else .plainNaN }

theorem toPlain_settled (c : Criterion) : c.settled.toPlain = c.toPlain := by
  cases boosted : c.hasBoost with
  | true =>
    have same : c.settled = c := by simp [settled, boosted]
    rw [same]
  | false =>
    have none : c.settled.hasBoost = false := by
      rw [settled, boosted]
      rfl
    rw [toPlain, toPlain, none, boosted]
    rfl

/-- An entry of a document is read by its operation and its value. -/
theorem addPlain?_toPlain (present : e.value ≠ .null) :
    c.addPlain? e.toPlain = (do c.constrain? (← Constraint.ofOperation? e.operation e.value)) := by
  have key : Operation.ofValue? (.text e.operation.name) = .ok e.operation := by
    simp [Operation.ofValue?, Operation.ofName?_name]
  have read : operationOf? e.toPlain = .ok (e.operation,
      [(.text "key", .text e.operation.name), (.text "value", e.value)]) := by
    simp [operationOf?, Entry.toPlain, key]
  rw [addPlain?, read, ok_bind]
  cases value : e.value with
  | null => contradiction
  | _ => simp

theorem addPlain?_toPlain_null (op : Operation) :
    c.addPlain? (Entry.toPlain ⟨op, .null⟩) = .ok (c.withEntry ⟨op, .null⟩) := by
  cases op <;> rfl

theorem constrain?_of_entry? (made : k.entry? = .ok e) :
    c.constrain? k = .ok (c.withEntry e) := by
  rw [constrain?, made]
  rfl

/-- An entry that calls have made is taken from a document. -/
theorem addPlain?_of_accepted (accepted : e.Accepted) :
    c.addPlain? e.toPlain = .ok (c.withEntry e) := by
  obtain ⟨op, value⟩ := e
  by_cases null : value = .null
  · subst null
    exact addPlain?_toPlain_null op
  rw [addPlain?_toPlain null]
  cases op with
  | equals | expression | fuzzy => rfl
  | contains | startsWith | endsWith =>
    apply constrain?_of_entry?
    exact map_eq_ok_iff.mpr ⟨value, Constraint.withoutBlank_eq_ok_iff.mpr ⟨rfl, accepted⟩, rfl⟩
  | oneOf =>
    obtain absurd | ⟨items, rfl⟩ := accepted
    · contradiction
    · rfl
  | between =>
    obtain absurd | ⟨lower, upper, rfl, closed⟩ := accepted
    · contradiction
    · exact constrain?_of_entry? (Constraint.bounds_eq_ok_iff.mpr ⟨rfl, closed⟩)

/-- A range is read from a list as it is from a pair. -/
theorem addPlain?_listed (accepted : e.Accepted) :
    c.addPlain? e.listed.toPlain = c.addPlain? e.toPlain := by
  obtain ⟨op, value⟩ := e
  cases op with
  | between =>
    obtain rfl | ⟨lower, upper, rfl, _⟩ := accepted
    · rfl
    · rw [addPlain?_toPlain (by simp [Entry.listed]), addPlain?_toPlain (by simp)]
      rfl
  | _ => rfl

theorem foldlM_addPlain? {doc : Entry → Value}
    (read : ∀ e ∈ es, ∀ c : Criterion, c.addPlain? (doc e) = .ok (c.withEntry e)) :
    (es.map doc).foldlM addPlain? c = .ok { c with entries := c.entries ++ es } := by
  induction es generalizing c with
  | nil => simp [pure, Except.pure]
  | cons e es ih =>
    have rest := fun f member => read f (List.mem_cons_of_mem e member)
    rw [List.map_cons, List.foldlM_cons, read e List.mem_cons_self, ok_bind, ih rest]
    simp [withEntry]

theorem addBoost?_of_accepted (accepted : c.Accepted) (fresh : Criterion) :
    fresh.addBoost? (if c.hasBoost then .float c.boost else .null) =
      .ok (if c.hasBoost then { fresh with boost := c.boost } else fresh) := by
  cases boosted : c.hasBoost with
  | true => simp [addBoost?, boostBy?, boostOf?, accepted.boost, Except.map]
  | false => rfl

/-- A node of a document is the criterion that it shows, once its entries are. -/
theorem ofPlain?_of_entries {doc : Entry → Value} (accepted : c.Accepted)
    (read : ∀ e ∈ c.entries, ∀ d : Criterion, d.addPlain? (doc e) = .ok (d.withEntry e)) :
    ofPlain? (.map [(.text "field", c.field), (.text "entries", .list (c.entries.map doc)),
      (.text "boost", if c.hasBoost then .float c.boost else .null), (.text "or", .bool c.isOr),
      (.text "negating", .bool c.negating)]) = .ok c.settled := by
  have filled := foldlM_addPlain? (c := start c.field c.isOr) read
  have weighed := addBoost?_of_accepted accepted
  simp only [ofPlain?, entriesOf?, Entries.named?_cons_text, String.reduceEq, if_true, if_false,
    Option.getD_some, ok_bind, Value.truthy, filled, weighed]
  cases negated : c.negating <;> cases boosted : c.hasBoost <;>
    simp [settled, start, Criterion.negated, negated, boosted]

theorem ofPlain?_toPlain (accepted : c.Accepted) : ofPlain? c.toPlain = .ok c.settled :=
  ofPlain?_of_entries accepted fun e member _ => addPlain?_of_accepted (accepted.entries e member)

theorem ofPlain?_listed (accepted : c.Accepted) : ofPlain? c.listed.toPlain = .ok c.settled := by
  have read : ∀ e ∈ c.entries, ∀ d : Criterion,
      d.addPlain? (Entry.toPlain e.listed) = .ok (d.withEntry e) := fun e member d =>
    (addPlain?_listed (accepted.entries e member)).trans
      (addPlain?_of_accepted (accepted.entries e member))
  have whole := ofPlain?_of_entries accepted read
  rw [toPlain, listed, List.map_map]
  exact whole

end Criterion

namespace Chain
variable {chain : Chain}

theorem ofPlain?_of_nodes {doc : Criterion → Value} (full : chain ≠ [])
    (read : ∀ c ∈ chain, Criterion.ofPlain? (doc c) = .ok c.settled) :
    ofPlain? (.list (chain.map doc)) = .ok (chain.map Criterion.settled) := by
  have nodes : (chain.map doc).mapM Criterion.ofPlain? = .ok (chain.map Criterion.settled) := by
    rw [List.mapM_map]
    exact mapM_eq_ok_of_forall read
  cases chain with
  | nil => contradiction
  | cons c cs => exact nodes

theorem toPlain_settled : toPlain (chain.map Criterion.settled) = chain.toPlain := by
  rw [toPlain, toPlain, List.map_map]
  exact congrArg Value.list (List.map_congr_left fun c _ => c.toPlain_settled)

/-- A snapshot describes the chain that it was taken of, ranges as lists or not. -/
theorem ofPlain?_snapshot {doc : Value} (full : chain ≠ []) (accepted : ∀ c ∈ chain, c.Accepted)
    (shown : doc = chain.toPlain ∨ doc = chain.listed.toPlain) :
    ofPlain? doc = .ok (chain.map Criterion.settled) := by
  obtain rfl | rfl := shown
  · exact ofPlain?_of_nodes full fun c member => Criterion.ofPlain?_toPlain (accepted c member)
  · rw [toPlain, listed, List.map_map]
    exact ofPlain?_of_nodes full fun c member => Criterion.ofPlain?_listed (accepted c member)

end Chain

namespace Store
variable {s : Store} {i : Nat}

theorem Sound.accepted_criteria (sound : Sound s) (there : i < s.nodes.size) :
    ∀ c ∈ s.criteria i, c.Accepted := by
  intro c member
  obtain ⟨j, listed, rfl⟩ := List.mem_map.mp member
  exact sound.accepted j (sound.members _ (sound.known i there) j listed)

theorem Sound.criteria_ne_nil (sound : Sound s) (there : i < s.nodes.size) : s.criteria i ≠ [] := by
  intro empty
  have none := List.map_eq_nil_iff.mp empty
  exact List.not_mem_nil (none ▸ sound.listed i there)

/-- The snapshot of any node that calls have made describes a chain. The nodes of that chain are
new, the last one is answered, and its snapshot is the one that it was made from. -/
theorem ofPlain_snapshot (s : Store) (reached : Reachable s) (i : NodeId)
    (there : i < s.nodes.size) (doc : Value)
    (shown : doc = (s.criteria i).toPlain ∨ doc = (s.criteria i).listed.toPlain) :
    ∃ j t, s.ofPlain doc = .ok (j, t) ∧ (t.chainOf j).getLast? = some j ∧
      (t.criteria j).toPlain = (s.criteria i).toPlain ∧
      (t.node j).chain = s.chains.size ∧ (∀ k ∈ t.chainOf j, s.nodes.size ≤ k) ∧
      (∀ k < s.nodes.size, t.node k = s.node k) ∧
      (∀ d < s.chains.size, t.members d = s.members d) := by
  have sound := sound_of_reachable reached
  have full := sound.criteria_ne_nil there
  have described := Chain.ofPlain?_snapshot full (sound.accepted_criteria there) shown
  have settled : (s.criteria i).map Criterion.settled ≠ [] := by simpa using full
  obtain ⟨j, t, made, last, criteria, new⟩ := ofPlain_spec (s := s) described settled
  refine ⟨j, t, made, last, ?_, new⟩
  rw [criteria, Chain.toPlain_settled]

/-- A range under a boost of negative zero, after a term that is refused, and a negated
alternative among no values. -/
def sampleStore : Store :=
  run empty [.create (.text "rate") false none, .constrain 0 (.atLeast (.int 1)),
    .constrain 0 (.contains (.text "a b")), .boostBy 0 (.float (.zero true)),
    .orField 0 (.text "type"), .constrain 1 (.oneOf (.tuple [])), .negate 1]

/-- The chain of that store as a file holds it. -/
def sampleDocument : Value := .list [
  .map [(.text "field", .text "rate"),
    (.text "entries", .list [.map [(.text "key", .text "between"),
      (.text "value", .list [.int 1, .null])]]),
    (.text "boost", .float (.zero true)), (.text "or", .bool false),
    (.text "negating", .bool false)],
  .map [(.text "field", .text "type"),
    (.text "entries", .list [.map [(.text "key", .text "in"), (.text "value", .list [])]]),
    (.text "boost", .null), (.text "or", .bool true), (.text "negating", .bool true)]]

theorem ofPlain_snapshot_sample :
    Reachable sampleStore ∧ 1 < sampleStore.nodes.size ∧
      sampleDocument = (sampleStore.criteria 1).listed.toPlain ∧
      ∃ j t, sampleStore.ofPlain sampleDocument = .ok (j, t) ∧
        (t.chainOf j).getLast? = some j ∧
        (t.criteria j).toPlain = (sampleStore.criteria 1).toPlain := by
  have reached : Reachable sampleStore := by
    simp only [sampleStore, run, List.foldl_cons, List.foldl_nil]
    iterate 7 refine Reachable.call ?_ (by decide)
    exact Reachable.empty
  have there : 1 < sampleStore.nodes.size := by decide
  have shown : sampleDocument = (sampleStore.criteria 1).listed.toPlain := by decide
  obtain ⟨j, t, made, last, same, _⟩ :=
    ofPlain_snapshot sampleStore reached 1 there sampleDocument (.inr shown)
  exact ⟨reached, there, shown, j, t, made, last, same⟩

end Store
end SearchCriteria
