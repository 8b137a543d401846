import SearchCriteria.Proofs.Frame
import SearchCriteria.Proofs.Routing

/-! What chains that are joined are compiled into. A pass over one chain after another one comes to
the clauses of both, slot by slot, so that a merge adds up what the two chains came to and a copied
node adds its own fragment. -/
namespace SearchCriteria

namespace Clauses

def append (as bs : Clauses) : Clauses where
  should := as.should ++ bs.should
  mustNot := as.mustNot ++ bs.mustNot
  must := as.must ++ bs.must

instance : Append Clauses := ⟨append⟩

/-- The clauses of a query slot by slot, and none where there is no query. -/
def ofQuery : Option Query → Clauses
  | some (.bool _ should mustNot must) => ⟨should, mustNot, must⟩
  | _ => empty

variable {as bs : Clauses} {slot : Slot} {q : Query}

theorem append_alternatives (qs : List Query) :
    as ++ ⟨qs, [], []⟩ = { as with should := as.should ++ qs } := by
  change as.append ⟨qs, [], []⟩ = _
  simp [append]

theorem cons_append : as.cons slot q ++ bs = (as ++ bs).cons slot q := by
  cases slot <;> rfl

theorem ofQuery_toQuery (cs : Clauses) :
    ofQuery (if cs.isEmpty then none else some cs.toQuery) = cs := by
  cases full : cs.isEmpty with
  | true =>
    obtain ⟨should, mustNot, must⟩ := cs
    simp only [isEmpty, Bool.and_eq_true, List.isEmpty_iff] at full
    obtain ⟨⟨rfl, rfl⟩, rfl⟩ := full
    rfl
  | false => rw [toQuery_eq]; rfl

end Clauses

namespace Compiler
variable {c : Compiler} {node n : Criterion} {chain : Chain}

/-- The clauses that a chain is compiled into, slot by slot. -/
def slots? (c : Compiler) (node : Criterion) (chain : Chain) : Except Failure Clauses :=
  (c.compile node chain).result.map Clauses.ofQuery

theorem slots?_eq_gather (said : node.entries ≠ []) :
    c.slots? node chain = (c.gather chain).result := by
  rw [slots?, compile_result said]
  cases (c.gather chain).result with
  | error e => rfl
  | ok cs => exact congrArg Except.ok cs.ofQuery_toQuery

theorem gather_append (xs ys : Chain) :
    (c.gather (xs ++ ys)).result = do
      let as ← (c.gather xs).result
      let bs ← (c.gather ys).result
      return as ++ bs := by
  induction xs with
  | nil =>
    change _ = ((c.gather ys).result >>= fun bs => .ok bs)
    exact (bind_pure _).symm
  | cons n ns ih =>
    rw [List.cons_append, gather_cons, gather_cons, bind_assoc]
    refine bind_congr fun r => ?_
    cases r with
    | none => exact ih
    | some q =>
      change (c.gather (ns ++ ys)).result.map _ = _
      rw [ih]
      cases (c.gather ns).result with
      | error e => rfl
      | ok as =>
        cases (c.gather ys).result with
        | error e => rfl
        | ok bs => exact congrArg Except.ok Clauses.cons_append.symm

/-- A chain of one alternative comes to its fragment. -/
theorem gather_alternative {f : Option Query} (alternative : n.isOr = true)
    (made : (c.fragment n).result = .ok f) : (c.gather [n]).result = .ok ⟨f.toList, [], []⟩ := by
  have slot : n.slot = .should := by simp [Criterion.slot, alternative]
  cases f with
  | none =>
    rw [gather_cons_none made]
    rfl
  | some q =>
    rw [gather_cons_some made, slot]
    rfl

end Compiler

namespace Store
variable {s t : Store} {c : Compiler} {i j n : NodeId} {p q : Clauses}

/-- The clauses that the chain of a node is compiled into, slot by slot. -/
def slots? (s : Store) (c : Compiler) (i : NodeId) : Except Failure Clauses :=
  c.slots? (s.node i).toCriterion (s.criteria i)

theorem slots?_eq_gather (said : (s.node i).entries ≠ []) :
    s.slots? c i = (c.gather (s.criteria i)).result :=
  Compiler.slots?_eq_gather said

theorem criteria_extend {ids : List NodeId} (sound : Sound s) (there : i < s.nodes.size) :
    (s.extend (s.node i).chain ids).criteria i =
      s.criteria i ++ ids.map fun k => (s.node k).toCriterion := by
  simp only [criteria, chainOf, node_extend, members_extend (sound.known i there), if_pos,
    List.map_append]

theorem criteria_extend_of_ne {ids : List NodeId} (sound : Sound s) (there : j < s.nodes.size)
    (apart : (s.node j).chain ≠ (s.node i).chain) :
    (s.extend (s.node i).chain ids).criteria j = s.criteria j := by
  simp only [criteria, chainOf, node_extend, members_extend (sound.known j there), if_neg apart]

theorem chainOf_append {d : Criterion} (sound : Sound s) (there : i < s.nodes.size) :
    (s.append (s.node i).chain d).2.chainOf i = s.chainOf i ++ [s.nodes.size] := by
  rw [chainOf, node_append, if_neg (Nat.ne_of_lt there), members_append (sound.known i there),
    if_pos rfl]
  rfl

/-- A node at the end of a chain is one more criterion of it, and no other one changes. -/
theorem criteria_append {d : Criterion} (sound : Sound s) (there : i < s.nodes.size) :
    (s.append (s.node i).chain d).2.criteria i = s.criteria i ++ [d] := by
  have old : ∀ k ∈ s.chainOf i, (s.append (s.node i).chain d).2.node k = s.node k := by
    intro k member
    have bound := sound.members _ (sound.known i there) k member
    rw [node_append, if_neg (Nat.ne_of_lt bound)]
  have new : (s.append (s.node i).chain d).2.node s.nodes.size = _ := node_append
  rw [if_pos rfl] at new
  rw [criteria, chainOf_append sound there, List.map_append, List.map_singleton, new, criteria]
  congr 1
  exact List.map_congr_left fun k member => congrArg Node.toCriterion (old k member)

/-- A merge adds up what two chains come to, slot by slot. -/
theorem slots_of_merge (sound : Sound s) (left : i < s.nodes.size) (right : j < s.nodes.size)
    (said : (s.node i).entries ≠ []) (also : (s.node j).entries ≠ [])
    (apart : (s.node j).chain ≠ (s.node i).chain) (first : s.slots? c i = .ok p)
    (second : s.slots? c j = .ok q) :
    ∃ t, s.call (.andNode i j) = .ok (i, t) ∧ t.slots? c i = .ok (p ++ q) ∧
      t.slots? c j = .ok q := by
  rw [slots?_eq_gather said] at first
  rw [slots?_eq_gather also] at second
  refine ⟨s.extend (s.node i).chain (s.chainOf j), by simp [call, andNode, apart], ?_, ?_⟩
  · have whole : (s.extend (s.node i).chain (s.chainOf j)).criteria i =
        s.criteria i ++ s.criteria j := criteria_extend sound left
    have still : ((s.extend (s.node i).chain (s.chainOf j)).node i).entries ≠ [] := said
    rw [slots?_eq_gather still, whole, Compiler.gather_append, first, second]
    rfl
  · have still : ((s.extend (s.node i).chain (s.chainOf j)).node j).entries ≠ [] := also
    rw [slots?_eq_gather still, criteria_extend_of_ne sound right apart, second]

/-- A copied node adds its fragment to the alternatives of the chain. -/
theorem slots_of_copy {f : Option Query} (sound : Sound s) (left : i < s.nodes.size)
    (said : (s.node i).entries ≠ []) (first : s.slots? c i = .ok p)
    (second : (c.fragment (s.node j).toCriterion).result = .ok f) :
    (s.orNode i j).2.slots? c i = .ok { p with should := p.should ++ f.toList } := by
  let copy : Criterion := { (s.node j).toCriterion with isOr := true }
  -- No fragment is made of whether its criterion is an alternative.
  have made : (c.fragment copy).result = .ok f := second
  have whole : (s.orNode i j).2.criteria i = s.criteria i ++ [copy] := criteria_append sound left
  have same : (s.orNode i j).2.node i = s.node i := (frame_after (.orNode i j)).node i left id
  have still : ((s.orNode i j).2.node i).entries ≠ [] := by rwa [same]
  rw [slots?_eq_gather said] at first
  rw [slots?_eq_gather still, whole, Compiler.gather_append, first,
    Compiler.gather_alternative rfl made, ok_bind, ok_bind, Clauses.append_alternatives]
  rfl

/-- A merge adds up the clauses of two chains slot by slot, and leaves those of the chain that is
taken over. A copied node adds its own fragment to the alternatives and nothing else, it is the one
node more that the chain lists, and only calls on the copy itself change what it comes to. -/
theorem slots_of_joined (s : Store) (reached : Reachable s) (c : Compiler) (i j : NodeId)
    (left : i < s.nodes.size) (right : j < s.nodes.size) (said : (s.node i).entries ≠ [])
    (p : Clauses) (compiled : s.slots? c i = .ok p) :
    (∀ q, (s.node j).entries ≠ [] → (s.node j).chain ≠ (s.node i).chain →
      s.slots? c j = .ok q →
      ∃ t, s.call (.andNode i j) = .ok (i, t) ∧ t.slots? c i = .ok (p ++ q) ∧
        t.slots? c j = .ok q) ∧
    ∀ f, (c.fragment (s.node j).toCriterion).result = .ok f →
      ∃ n t, s.call (.orNode i j) = .ok (n, t) ∧
        t.slots? c i = .ok { p with should := p.should ++ f.toList } ∧
        s.nodes.size ≤ n ∧ t.chainOf i = s.chainOf i ++ [n] ∧
        (c.fragment (t.node n).toCriterion).result = .ok f ∧
        ∀ calls, (∀ call ∈ calls, ¬ call.Edits n) →
          c.fragment ((t.run calls).node n).toCriterion = c.fragment (t.node n).toCriterion := by
  have sound := sound_of_reachable reached
  constructor
  · intro q also apart second
    exact slots_of_merge sound left right said also apart compiled second
  · intro f second
    have new : (s.orNode i j).2.node s.nodes.size = _ := node_append
    have there : s.nodes.size < (s.orNode i j).2.nodes.size :=
      Nat.lt_of_lt_of_eq (Nat.lt_succ_self _) size_append.symm
    rw [if_pos rfl] at new
    refine ⟨s.nodes.size, (s.orNode i j).2, rfl, slots_of_copy sound left said compiled second,
      Nat.le_refl _, chainOf_append sound left, ?_, ?_⟩
    · rw [new]
      exact second
    · intro calls elsewhere
      have kept : ((s.orNode i j).2.run calls).node s.nodes.size = _ :=
        (frame_run calls).node s.nodes.size there fun ⟨call, member, edits⟩ =>
          elsewhere call member edits
      rw [kept]

/-- Two chains that have nodes in common: the second has taken over the first. -/
def crossedStore : Store :=
  run empty [.create (.text "rate") false none, .constrain 0 (.equals (.int 1)),
    .orField 0 (.text "type"), .constrain 1 (.fuzzy (.text "inn")),
    .create (.text "name") false none, .constrain 2 (.equals (.text "a")), .negate 2,
    .boostBy 2 (.float (.zero false)), .andNode 2 1]

theorem slots_of_joined_sample :
    let c := Compiler.ofConfig .default
    let rate := Query.leaf (.field ⟨.null, "rate", .int 1, .null⟩)
    let type := Query.leaf (.fuzzy ⟨.null, "type", "inn"⟩)
    let name := Query.leaf (.field ⟨.float (.zero false), "name", .text "a", .null⟩)
    Reachable crossedStore ∧ crossedStore.slots? c 0 = .ok ⟨[type], [], [rate]⟩ ∧
      crossedStore.slots? c 2 = .ok ⟨[type], [name], [rate]⟩ ∧
      (∃ t, crossedStore.call (.andNode 0 2) = .ok (0, t) ∧
        t.slots? c 0 = .ok ⟨[type, type], [name], [rate, rate]⟩ ∧
        t.slots? c 2 = .ok ⟨[type], [name], [rate]⟩) ∧
      ∃ n t, crossedStore.call (.orNode 0 2) = .ok (n, t) ∧
        t.slots? c 0 = .ok ⟨[type, name], [], [rate]⟩ ∧ t.chainOf 0 = [0, 1, n] ∧
        c.fragment ((t.run [.negate 2, .constrain 2 (.fuzzy (.text "b"))]).node n).toCriterion =
          c.fragment (t.node n).toCriterion := by
  intro c rate type name
  have reached : Reachable crossedStore := reachable_run .empty (by decide)
  have said : (crossedStore.node 0).entries ≠ [] := by decide
  have also : (crossedStore.node 2).entries ≠ [] := by decide
  have first : crossedStore.slots? c 0 = .ok ⟨[type], [], [rate]⟩ := rfl
  have second : crossedStore.slots? c 2 = .ok ⟨[type], [name], [rate]⟩ := rfl
  obtain ⟨merged, copied⟩ :=
    slots_of_joined crossedStore reached c 0 2 (by decide) (by decide) said _ first
  obtain ⟨n, t, made, slots, new, listed, _, kept⟩ := copied (some name) rfl
  refine ⟨reached, first, second, merged _ also (by decide) second, n, t, made, slots, listed,
    kept _ ?_⟩
  have other : n ≠ 2 := Nat.ne_of_gt (Nat.lt_of_lt_of_le (by decide) new)
  simpa [Call.Edits] using other

end Store
end SearchCriteria
