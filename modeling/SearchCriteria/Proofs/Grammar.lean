import Mathlib.Algebra.Group.Int.Defs
import SearchCriteria.Proofs.Store
import SearchCriteria.Proofs.Written

/-! Which documents describe a chain. The form of a document is laid down part by part, and so are
the faults that a part can have and what it describes where it has none. Reading a document gives
what it describes, or the first of all its faults. -/
namespace SearchCriteria

namespace Operation
variable {op : Operation} {v : Value} {s : String}

theorem ofName?_eq_some_iff : ofName? s = some op ↔ s = op.name := by
  constructor
  · intro found
    have same := List.find?_some found
    exact (beq_iff_eq.mp same).symm
  · rintro rfl
    exact ofName?_name op

/-- What an operation takes for its value. A term with wildcards is one word, a choice is among
the items of what is not one value by nature, and a range is a pair that is closed somewhere. -/
def Takes (op : Operation) (v : Value) : Prop :=
  match op with
  | .equals | .expression | .fuzzy => True
  | .contains | .startsWith | .endsWith => ∀ s, v = .text s → ∀ ch ∈ s.toList, isBlank ch = false
  | .oneOf => (∃ items, v.items? = .ok items) ∧
      (∀ s, v ≠ .text s) ∧ (∀ bs, v ≠ .bytes bs) ∧ ∀ es, v ≠ .map es
  | .between => ∃ lower upper, (v = .list [lower, upper] ∨ v = .tuple [lower, upper]) ∧
      ¬ (lower = .null ∧ upper = .null)

/-- What is wrong with a value under an operation. -/
def faults (op : Operation) (v : Value) : List Failure :=
  match op with
  | .equals | .expression | .fuzzy => []
  | .contains | .startsWith | .endsWith => match v with
    | .text s => if hasBlank s then [.criteria (.blankInTerm s)] else []
    | _ => []
  | .oneOf => match v with
    | .list _ | .tuple _ | .set _ | .stream _ => []
    | v => [.quoting v (.criteria (.notCollection v))]
  | .between => match v with
    | .list [lower, upper] | .tuple [lower, upper] =>
      if lower.isNull && upper.isNull then [.criteria .openRange] else []
    | v => [.quoting v (.criteria (.notPair v))]

/-- The value that an entry keeps: of a collection the list of its items, of a range a pair. -/
def kept (op : Operation) (v : Value) : Value :=
  match op, v with
  | .oneOf, .tuple items | .oneOf, .set items | .oneOf, .stream items => .list items
  | .between, .list bounds => .tuple bounds
  | _, v => v

theorem hasBlank_eq_false_iff : hasBlank s = false ↔ ∀ ch ∈ s.toList, isBlank ch = false := by
  simp [hasBlank]

theorem faults_range_eq_nil_iff {lower upper : Value} :
    (if lower.isNull && upper.isNull then [Failure.criteria .openRange] else []) = [] ↔
      ¬ (lower = .null ∧ upper = .null) := by
  simp [Value.isNull_iff]

/-- A value has no faults exactly when the operation takes it. -/
theorem faults_eq_nil_iff : op.faults v = [] ↔ op.Takes v := by
  cases op with
  | equals | expression | fuzzy => simp [faults, Takes]
  | contains | startsWith | endsWith =>
    cases v with
    | text s =>
      have word := hasBlank_eq_false_iff (s := s)
      cases blank : hasBlank s <;> simp_all [faults, Takes]
    | _ => simp [faults, Takes]
  | oneOf => cases v <;> simp [faults, Takes, Value.items?]
  | between =>
    constructor
    · intro none
      simp only [faults] at none
      split at none
      · exact ⟨_, _, .inl rfl, faults_range_eq_nil_iff.mp none⟩
      · exact ⟨_, _, .inr rfl, faults_range_eq_nil_iff.mp none⟩
      · contradiction
    · rintro ⟨lower, upper, rfl | rfl, closed⟩
      · exact faults_range_eq_nil_iff.mpr closed
      · exact faults_range_eq_nil_iff.mpr closed

end Operation

/-- An entry of a document is a map that names an operation. It may leave its value open. -/
def Value.DescribesEntry (v : Value) : Prop :=
  ∃ es op, v = .map es ∧ Entries.named? "key" es = some (.text (Operation.name op)) ∧
    (Entries.under "value" es = .null ∨ op.Takes (Entries.under "value" es))

namespace Entry
variable {v : Value}

/-- The operation that an entry of a document names, and the value beside it. -/
def told? (v : Value) : Option (Operation × Value) :=
  match v with
  | .map es => match Entries.named? "key" es with
    | some (.text s) => (Operation.ofName? s).map (·, Entries.under "value" es)
    | _ => none
  | _ => none

def faults (v : Value) : List Failure :=
  match told? v with
  | none => [.quoting v (.criteria (.entryWithoutKey v))]
  | some (op, w) => if w.isNull then [] else op.faults w

/-- The entry that an entry of a document becomes. -/
def ofPlain (v : Value) : Entry :=
  match told? v with
  | none => ⟨.equals, .null⟩
  | some (op, w) => ⟨op, op.kept w⟩

theorem told?_eq_some_iff {op : Operation} {w : Value} : told? v = some (op, w) ↔
    ∃ es, v = .map es ∧ Entries.named? "key" es = some (.text op.name) ∧ Entries.under "value" es = w := by
  unfold told?
  split
  · rename_i es
    split
    · rename_i s key
      simp [key, Operation.ofName?_eq_some_iff]
    · rename_i other
      simp only [Value.map.injEq, exists_eq_left']
      constructor
      · intro absurd
        contradiction
      · rintro ⟨key, _⟩
        exact (other _ key).elim
  · rename_i other
    constructor
    · intro absurd
      contradiction
    · rintro ⟨es, same, _⟩
      exact (other es same).elim

theorem describesEntry_iff :
    v.DescribesEntry ↔ ∃ op w, told? v = some (op, w) ∧ (w = .null ∨ op.Takes w) := by
  simp only [told?_eq_some_iff]
  constructor
  · rintro ⟨es, op, rfl, key, takes⟩
    exact ⟨op, _, ⟨es, rfl, key, rfl⟩, takes⟩
  · rintro ⟨op, w, ⟨es, rfl, key, rfl⟩, takes⟩
    exact ⟨es, op, rfl, key, takes⟩

theorem faults_eq_nil_iff : faults v = [] ↔ v.DescribesEntry := by
  rw [describesEntry_iff]
  unfold faults
  cases told : told? v with
  | none => simp
  | some t =>
    obtain ⟨op, w⟩ := t
    by_cases null : w = .null
    · simp [null, Value.isNull]
    · simp [Value.isNull_iff, null, Operation.faults_eq_nil_iff]

end Entry

namespace Constraint
variable {c : Criterion} {op : Operation} {v : Value}

/-- A value under an operation becomes the entry that keeps it, or is refused for what is wrong
with it. -/
theorem constrain?_ofOperation? : (do c.constrain? (← ofOperation? op v)) =
    firstOf (op.faults v) (c.withEntry ⟨op, op.kept v⟩) := by
  cases op with
  | equals | expression | fuzzy => rfl
  | contains | startsWith | endsWith =>
    cases v with
    | text s =>
      cases blank : hasBlank s <;>
        simp [ofOperation?, Criterion.constrain?, Constraint.entry?, withoutBlank, blank,
          Operation.faults, firstOf, Except.map, Operation.kept]
    | _ => rfl
  | oneOf => cases v <;> rfl
  | between =>
    have range (lower upper : Value) : c.constrain? (.between lower upper) =
        firstOf (if lower.isNull && upper.isNull then [.criteria .openRange] else [])
          (c.withEntry ⟨.between, .tuple [lower, upper]⟩) := by
      change (bounds lower upper).map c.withEntry = _
      unfold bounds
      split <;> rfl
    cases v with
    | list bounds | tuple bounds =>
      rcases bounds with _ | ⟨lower, _ | ⟨upper, _ | ⟨third, more⟩⟩⟩
      · rfl
      · rfl
      · exact range lower upper
      · rfl
    | _ => rfl

end Constraint

namespace Criterion
variable {c : Criterion} {v : Value}

/-- An entry of a document adds what it describes. -/
theorem addPlain?_eq_firstOf :
    c.addPlain? v = firstOf (Entry.faults v) (c.withEntry (Entry.ofPlain v)) := by
  unfold addPlain? operationOf? Entry.faults Entry.ofPlain Entry.told?
  cases v with
  | map es =>
    dsimp only
    cases key : Entries.named? "key" es with
    | none => rfl
    | some k =>
      cases k with
      | text s =>
        cases named : Operation.ofName? s with
        | none => simp [Operation.ofValue?, named, firstOf]
        | some op =>
          simp only [Operation.ofValue?, named, Option.map_some, ok_bind]
          split
          · rename_i null
            have nothing : Entries.under "value" es = .null := null
            rw [nothing]
            cases op <;> rfl
          · rename_i present
            rw [Value.isNull_eq_false_iff.mpr present]
            exact Constraint.constrain?_ofOperation?
      | _ => rfl
  | _ => rfl

end Criterion

/-! Nodes, and the chain that they make. -/

/-- A boost of a document is a number that is not below zero, and a double if it is an integer. -/
def Value.DescribesBoost (v : Value) : Prop :=
  v = .null ∨ (∃ n x, v = .int n ∧ 0 ≤ n ∧ Binary64.ofInt? n = some x) ∨
    ∃ x, v = .float x ∧ x.isNegative = false

/-- A node of a document is a map. What counts as nothing counts as no entries. -/
def Value.DescribesNode (v : Value) : Prop :=
  ∃ es, v = .map es ∧
    ((Entries.under "entries" es).truthy = false ∨
      ∃ items, Entries.under "entries" es = .list items ∧ ∀ e ∈ items, e.DescribesEntry) ∧
    (Entries.under "boost" es).DescribesBoost

namespace Criterion
variable {c : Criterion} {v : Value}

def entriesFaults : Value → List Failure
  | .list items => items.flatMap Entry.faults
  | v => if v.truthy then [.quoting v (.criteria (.entriesNotList v))] else []

def boostFaults : Value → List Failure
  | .null => []
  | .int n =>
    if n < 0 then [.criteria .negativeBoost]
    else if Binary64.ofInt? n = none then [.overflow] else []
  | .float x => if x.isNegative then [.criteria .negativeBoost] else []
  | v => [.quoting v (.criteria (.boostNotNumber v))]

/-- What is wrong with a node: first with its entries, one by one, and then with its boost. -/
def faults : Value → List Failure
  | .map es => entriesFaults (Entries.under "entries" es) ++ boostFaults (Entries.under "boost" es)
  | v => [.quoting v (.criteria (.nodeNotMap v))]

def entriesOf : Value → List Entry
  | .list items => items.map Entry.ofPlain
  | _ => []

def boostOf : Value → Binary64
  | .int n => (Binary64.ofInt? n).getD .plainNaN
  | .float x => x
  | _ => .plainNaN

/-- The criterion that a node of a document becomes. -/
def ofPlain : Value → Criterion
  | .map es => ⟨Entries.under "field" es, entriesOf (Entries.under "entries" es),
      boostOf (Entries.under "boost" es), (Entries.under "or" es).truthy,
      (Entries.under "negating" es).truthy⟩
  | v => start v false

theorem boostFaults_eq_nil_iff : boostFaults v = [] ↔ v.DescribesBoost := by
  cases v with
  | int n =>
    by_cases below : n < 0
    · have not : ¬ 0 ≤ n := Int.not_le.mpr below
      simp [boostFaults, Value.DescribesBoost, below, not]
    · have above : 0 ≤ n := Int.not_lt.mp below
      cases double : Binary64.ofInt? n <;>
        simp [boostFaults, Value.DescribesBoost, below, above, double]
  | float x => simp [boostFaults, Value.DescribesBoost]
  | _ => simp [boostFaults, Value.DescribesBoost]

theorem entriesFaults_eq_nil_iff : entriesFaults v = [] ↔
    v.truthy = false ∨ ∃ items, v = .list items ∧ ∀ e ∈ items, e.DescribesEntry := by
  cases v with
  | list items =>
    simp only [entriesFaults, List.flatMap_eq_nil_iff, Entry.faults_eq_nil_iff]
    constructor
    · intro all
      exact .inr ⟨items, rfl, all⟩
    · rintro (empty | ⟨_, same, all⟩)
      · have none : items = [] := by simpa [Value.truthy] using empty
        simp [none]
      · cases same
        exact all
  | _ => simp [entriesFaults]

theorem faults_eq_nil_iff : faults v = [] ↔ v.DescribesNode := by
  cases v with
  | map es =>
    simp [faults, Value.DescribesNode, entriesFaults_eq_nil_iff, boostFaults_eq_nil_iff]
  | _ => simp [faults, Value.DescribesNode]

theorem addBoost?_eq_firstOf : c.addBoost? v = firstOf (boostFaults v)
    (if v = .null then c else { c with boost := boostOf v }) := by
  cases v with
  | int n =>
    by_cases below : n < 0
    · simp [addBoost?, boostBy?, boostOf?, boostFaults, below, firstOf, Except.map]
    · cases double : Binary64.ofInt? n <;>
        simp [addBoost?, boostBy?, boostOf?, boostFaults, boostOf, below, double, firstOf, Except.map]
  | float x =>
    cases below : x.isNegative <;>
      simp [addBoost?, boostBy?, boostOf?, boostFaults, boostOf, below, firstOf, Except.map]
  | _ => rfl

theorem foldl_withEntry (items : List Value) (c : Criterion) :
    items.foldl (fun c e => c.withEntry (Entry.ofPlain e)) c =
      { c with entries := c.entries ++ items.map Entry.ofPlain } := by
  induction items generalizing c with
  | nil => simp
  | cons e items ih =>
    rw [List.foldl_cons, ih]
    simp [withEntry]

/-- The entries of a node are added one after the other to what has none. -/
theorem addEntries_eq_firstOf (es : Entries) (field : Value) (isOr : Bool) :
    (do (← entriesOf? es).foldlM addPlain? (start field isOr)) =
      firstOf (entriesFaults (Entries.under "entries" es))
        { start field isOr with entries := entriesOf (Entries.under "entries" es) } := by
  unfold entriesOf? Entries.under
  generalize (Entries.named? "entries" es).getD .null = entries
  cases entries with
  | list items =>
    have added := foldlM_firstOf (fun c e => addPlain?_eq_firstOf (c := c) (v := e)) items
      (start field isOr)
    rw [foldl_withEntry] at added
    exact added
  | _ =>
    dsimp only [entriesFaults]
    split <;> rfl

/-- What a node still takes once it has its entries. -/
def weigh? (es : Entries) (c : Criterion) : Except Failure Criterion := do
  let c ← c.addBoost? (Entries.under "boost" es)
  .ok (if (Entries.under "negating" es).truthy then c.negated else c)

theorem weigh?_eq_firstOf (es : Entries) (field : Value) (entries : List Entry) (isOr : Bool) :
    weigh? es { start field isOr with entries := entries } =
      firstOf (boostFaults (Entries.under "boost" es))
        ⟨field, entries, boostOf (Entries.under "boost" es), isOr,
          (Entries.under "negating" es).truthy⟩ := by
  unfold weigh?
  rw [addBoost?_eq_firstOf, bind_ok_comp, firstOf_map]
  congr 1
  cases boost : Entries.under "boost" es <;>
    cases negated : (Entries.under "negating" es).truthy <;> rfl

/-- Reading a node gives the criterion that it describes, or the first of its faults. -/
theorem ofPlain?_eq_firstOf : ofPlain? v = firstOf (faults v) (ofPlain v) := by
  cases v with
  | map es =>
    have filled := addEntries_eq_firstOf es (Entries.under "field" es)
      (Entries.under "or" es).truthy
    have whole : ofPlain? (.map es) = (entriesOf? es >>= fun items => items.foldlM addPlain?
        (start (Entries.under "field" es) (Entries.under "or" es).truthy)) >>= weigh? es :=
      (bind_assoc _ _ _).symm
    rw [whole, filled]
    exact firstOf_bind (weigh?_eq_firstOf es _ _ _)
  | _ => rfl

end Criterion

/-- The nodes of a document: the items of a list, and any other value as the only one. -/
def Chain.nodesOf : Value → List Value
  | .list nodes => nodes
  | node => [node]

/-- A document describes a chain when it has a node, and every node has the form of one. -/
def Value.DescribesChain (v : Value) : Prop :=
  Chain.nodesOf v ≠ [] ∧ ∀ n ∈ Chain.nodesOf v, n.DescribesNode

namespace Chain
variable {v : Value}

/-- All that is wrong with a document, in the order of its nodes. -/
def faults (v : Value) : List Failure :=
  match nodesOf v with
  | [] => [.criteria .emptyChain]
  | nodes => nodes.flatMap Criterion.faults

theorem faults_eq_nil_iff : faults v = [] ↔ v.DescribesChain := by
  unfold faults Value.DescribesChain
  split
  · rename_i none
    simp [none]
  · rename_i full
    have some : nodesOf v ≠ [] := full
    simp [some, List.flatMap_eq_nil_iff, Criterion.faults_eq_nil_iff]

theorem faults_of_cons {n : Value} {ns : List Value} (nodes : nodesOf v = n :: ns) :
    faults v = (n :: ns).flatMap Criterion.faults := by
  rw [faults, nodes]

/-- Reading a document gives the criteria that its nodes describe, or the first of its faults. -/
theorem ofPlain?_eq_firstOf :
    ofPlain? v = firstOf (faults v) ((nodesOf v).map Criterion.ofPlain) := by
  unfold ofPlain?
  split
  · rfl
  · rename_i nodes full
    have read := mapM_firstOf (fun n => Criterion.ofPlain?_eq_firstOf (v := n)) nodes
    cases nodes with
    | nil => contradiction
    | cons n ns => exact read
  · rename_i noList
    have only : nodesOf v = [v] := by
      unfold nodesOf
      split
      · exact (noList _ rfl).elim
      · rfl
    rw [faults_of_cons only, only, Criterion.ofPlain?_eq_firstOf, firstOf_map,
      List.flatMap_singleton, List.map_singleton]

end Chain

/-! What kind of refusal a fault is. -/

section Worded
variable {op : Operation} {v w : Value} {f : Failure}

theorem Operation.worded_of_mem_faults (member : f ∈ op.faults v) : f.Worded v := by
  cases op with
  | equals | expression | fuzzy => exact absurd member List.not_mem_nil
  | contains | startsWith | endsWith =>
    simp only [faults] at member
    split at member
    · split at member
      · rw [List.mem_singleton.mp member]
        exact Failure.worded_criteria
      · exact absurd member List.not_mem_nil
    · exact absurd member List.not_mem_nil
  | oneOf =>
    simp only [faults] at member
    split at member
    iterate 4 exact absurd member List.not_mem_nil
    rw [List.mem_singleton.mp member]
    exact Failure.worded_quoting
  | between =>
    have range {lower upper : Value} (inside : f ∈ if lower.isNull && upper.isNull then
        [Failure.criteria .openRange] else []) : f.Worded v := by
      split at inside
      · rw [List.mem_singleton.mp inside]
        exact Failure.worded_criteria
      · exact absurd inside List.not_mem_nil
    simp only [faults] at member
    split at member
    · exact range member
    · exact range member
    · rw [List.mem_singleton.mp member]
      exact Failure.worded_quoting

theorem Entry.worded_of_mem_faults (member : f ∈ Entry.faults v) : f.Worded v := by
  unfold Entry.faults at member
  split at member
  · rw [List.mem_singleton.mp member]
    exact Failure.worded_quoting
  · rename_i op w told
    obtain ⟨es, rfl, _, rfl⟩ := Entry.told?_eq_some_iff.mp told
    split at member
    · exact absurd member List.not_mem_nil
    · exact (Operation.worded_of_mem_faults member).whole Value.isWritable_under

theorem Criterion.worded_of_mem_entriesFaults (member : f ∈ Criterion.entriesFaults v) :
    f.Worded v := by
  unfold Criterion.entriesFaults at member
  split at member
  · obtain ⟨e, item, inside⟩ := List.mem_flatMap.mp member
    exact (Entry.worded_of_mem_faults inside).whole fun whole => Value.isWritable_item whole item
  · split at member
    · rw [List.mem_singleton.mp member]
      exact Failure.worded_quoting
    · exact absurd member List.not_mem_nil

/-- A boost that is an integer which no double is near to. -/
def Value.OverflowsBoost (v : Value) : Prop := ∃ n, v = .int n ∧ 0 ≤ n ∧ Binary64.ofInt? n = none

/-- Only a boost can be refused for anything but its wording, and only when it is too large. -/
theorem Criterion.worded_of_mem_boostFaults (member : f ∈ Criterion.boostFaults v) :
    f.Worded v ∨ f = .overflow ∧ v.OverflowsBoost := by
  unfold Criterion.boostFaults at member
  split at member
  · exact absurd member List.not_mem_nil
  · rename_i n
    split at member
    · rw [List.mem_singleton.mp member]
      exact .inl Failure.worded_criteria
    · rename_i above
      split at member
      · rename_i large
        exact .inr ⟨List.mem_singleton.mp member, n, rfl, Int.not_lt.mp above, large⟩
      · exact absurd member List.not_mem_nil
  · split at member
    · rw [List.mem_singleton.mp member]
      exact .inl Failure.worded_criteria
    · exact absurd member List.not_mem_nil
  · rw [List.mem_singleton.mp member]
    exact .inl Failure.worded_quoting

theorem Criterion.worded_of_mem_faults (member : f ∈ Criterion.faults v) :
    f.Worded v ∨ f = .overflow ∧ ∃ es, v = .map es ∧ (Entries.under "boost" es).OverflowsBoost := by
  unfold Criterion.faults at member
  split at member
  · rename_i es
    rcases List.mem_append.mp member with entries | boost
    · exact .inl ((Criterion.worded_of_mem_entriesFaults entries).whole Value.isWritable_under)
    · obtain worded | ⟨same, large⟩ := Criterion.worded_of_mem_boostFaults boost
      · exact .inl (worded.whole Value.isWritable_under)
      · exact .inr ⟨same, es, rfl, large⟩
  · rw [List.mem_singleton.mp member]
    exact .inl Failure.worded_quoting

theorem Chain.isWritable_node (whole : v.isWritable = true) (node : w ∈ Chain.nodesOf v) :
    w.isWritable = true := by
  unfold Chain.nodesOf at node
  split at node
  · exact Value.isWritable_item whole node
  · rw [List.mem_singleton.mp node]
    exact whole

theorem Chain.worded_of_mem_faults (member : f ∈ Chain.faults v) : f.Worded v ∨
    f = .overflow ∧ ∃ es, .map es ∈ Chain.nodesOf v ∧
      (Entries.under "boost" es).OverflowsBoost := by
  unfold Chain.faults at member
  split at member
  · rw [List.mem_singleton.mp member]
    exact .inl Failure.worded_criteria
  · obtain ⟨n, node, inside⟩ := List.mem_flatMap.mp member
    obtain worded | ⟨same, es, rfl, large⟩ := Criterion.worded_of_mem_faults inside
    · exact .inl (worded.whole fun whole => Chain.isWritable_node whole node)
    · exact .inr ⟨same, es, node, large⟩

end Worded

namespace Store
variable {s t : Store} {j : NodeId} {v : Value} {f : Failure}

theorem ofPlain_eq_error_iff : s.ofPlain v = .error f ↔ (Chain.faults v).head? = some f := by
  rw [ofPlain, Chain.ofPlain?_eq_firstOf, firstOf_map, firstOf_eq_error_iff]

/-- A document is accepted exactly when it has the form of one. It then becomes a new chain of new
nodes, one for each node of the document and in its order, the last of which is answered. If it is
not accepted, it is refused for the first of its faults. That is a complaint about the chain to be
built, unless it is a boost that is too large for a double, or what the complaint would quote
cannot be written out. -/
theorem ofPlain_iff_describesChain (s : Store) (v : Value) :
    ((∃ j t, s.ofPlain v = .ok (j, t)) ↔ v.DescribesChain) ∧
    (∀ j t, s.ofPlain v = .ok (j, t) →
      t.criteria j = (Chain.nodesOf v).map Criterion.ofPlain ∧
      (t.chainOf j).Nodup ∧ (∀ k ∈ t.chainOf j, s.nodes.size ≤ k) ∧
      (t.chainOf j).getLast? = some j) ∧
    ∀ f, (s.ofPlain v = .error f ↔ (Chain.faults v).head? = some f) ∧
      (s.ofPlain v = .error f → (∃ fault, f = .criteria fault) ∨
        (f = .overflow ∧ ∃ es n, .map es ∈ Chain.nodesOf v ∧
          Entries.under "boost" es = .int n ∧ 0 ≤ n ∧ Binary64.ofInt? n = none) ∨
        (f = .tooManyDigits ∧ v.isWritable = false)) := by
  have read : Chain.ofPlain? v = _ := Chain.ofPlain?_eq_firstOf
  refine ⟨?_, ?_, ?_⟩
  · rw [← Chain.faults_eq_nil_iff]
    constructor
    · rintro ⟨j, t, made⟩
      obtain ⟨cs, described, _⟩ := map_eq_ok_iff.mp made
      rw [read] at described
      exact (firstOf_eq_ok_iff.mp described).1
    · intro faultless
      rw [faultless] at read
      exact ⟨_, _, map_eq_ok_iff.mpr ⟨_, read, rfl⟩⟩
  · intro j t made
    obtain ⟨cs, described, _⟩ := map_eq_ok_iff.mp made
    have faultless := (firstOf_eq_ok_iff.mp (read.symm.trans described)).1
    have some := (Chain.faults_eq_nil_iff.mp faultless).1
    rw [faultless] at read
    have full : (Chain.nodesOf v).map Criterion.ofPlain ≠ [] := by simpa using some
    obtain ⟨_, _, same, last, criteria, _, new, _⟩ := ofPlain_spec (s := s) read full
    cases made.symm.trans same
    exact ⟨criteria, nodup_ofPlain made read full, new, last⟩
  · intro f
    refine ⟨ofPlain_eq_error_iff, fun refused => ?_⟩
    have first := ofPlain_eq_error_iff.mp refused
    obtain (criteria | digits) | ⟨same, es, node, n, large⟩ :=
      Chain.worded_of_mem_faults (List.mem_of_head? first)
    · exact .inl criteria
    · exact .inr (.inr digits)
    · exact .inr (.inl ⟨same, es, n, node, large⟩)

/-- A node whose entries count as none, before a choice from a pair under a boost that is no
number. -/
def describedSample : Value := .list [.map [(.text "entries", .int 0)],
  .map [(.text "field", .text "type"), (.text "boost", .float .plainNaN), (.text "entries",
    .list [.map [(.text "key", .text "in"), (.text "value", .tuple [.int 1, .int 2])]])]]

theorem ofPlain_describedSample : describedSample.DescribesChain ∧
    ∃ j t, empty.ofPlain describedSample = .ok (j, t) ∧ t.criteria j =
      [.start .null false, ⟨.text "type", [⟨.oneOf, .list [.int 1, .int 2]⟩], .plainNaN, false,
        false⟩] := by
  have form : describedSample.DescribesChain := Chain.faults_eq_nil_iff.mp (by decide)
  obtain ⟨accepted, described, _⟩ := ofPlain_iff_describesChain empty describedSample
  obtain ⟨j, t, made⟩ := accepted.mpr form
  exact ⟨form, j, t, made, (described j t made).1⟩

/-- Not every refusal is a complaint about the chain to be built: neither that of a boost that is
too large for a double, nor that of an integer with too many digits in the place of a node. -/
theorem ofPlain_refused_otherwise :
    (∃ f, empty.ofPlain (.map [(.text "boost", .int (10 ^ 309))]) = .error f ∧
      ∀ fault, f ≠ .criteria fault) ∧
    ∃ f, empty.ofPlain (.int (10 ^ 4300)) = .error f ∧ ∀ fault, f ≠ .criteria fault := by
  have large : (Chain.faults (.map [(.text "boost", .int (10 ^ 309))])).head? =
      some .overflow := by decide +kernel
  have long : (Chain.faults (.int (10 ^ 4300))).head? = some .tooManyDigits := by decide +kernel
  exact ⟨⟨_, ofPlain_eq_error_iff.mpr large, nofun⟩, _, ofPlain_eq_error_iff.mpr long, nofun⟩

end Store
end SearchCriteria
