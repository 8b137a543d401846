import SearchCriteria.Proofs.Fragment
import SearchCriteria.Proofs.Routing

/-! The leaves of a rendered chain. However the queries of a chain were put together on the
way, what is left at the bottom is what its entries ask for, slot by slot and in the order of the
chain, the entries and the items of a choice. -/
namespace SearchCriteria

namespace Query
variable {s n m : List Query}

/-- The leaves that a query has once it is rendered. -/
def leaves? (q : Query) : Except Failure (List Value) := q.render?.map Value.leaves

/-- The same where there may be no query, and so no leaf. -/
def leavesOf? : Option Query → Except Failure (List Value)
  | none => .ok []
  | some q => q.leaves?

theorem flatMapM_leaves? (qs : List Query) :
    qs.flatMapM leaves? = (qs.mapM render?).map (List.flatMap Value.leaves) :=
  flatMapM_map_comp render? Value.leaves qs

theorem leaves?_bool (b : Value) :
    (Query.bool b s n m).leaves? = (s ++ n ++ m).flatMapM leaves? := by
  have body (vs vn vm : List Value) :
      (named "bool" (.map (renderedBody b vs vn vm))).leaves =
        (vs ++ vn ++ vm).flatMap Value.leaves := by
    rw [Value.leaves_of_body rfl, clauses_renderedBody]
  rw [leaves?, render?_bool, flatMapM_leaves?, List.mapM_append, List.mapM_append]
  cases s.mapM render? with
  | error e => rfl
  | ok vs =>
    cases n.mapM render? with
    | error e => rfl
    | ok vn =>
      cases m.mapM render? with
      | error e => rfl
      | ok vm => exact congrArg Except.ok (body vs vn vm)

theorem leaves?_under (q : Query) (boost : Binary64) : (q.under boost).leaves? = q.leaves? :=
  map_congr_of_map_eq (q.render?_under boost) fun _ _ same => Value.leaves_congr same

/-- A leaf that the compiler makes of a value is rendered as the one leaf that it is. -/
theorem leaves?_of_fresh {l : Leaf} (fresh : l.Fresh) :
    (Query.leaf l).leaves? = (Query.leaf l).render?.map fun v => [v] := by
  obtain ⟨typed, none⟩ := fresh
  have single : l.render.leaves = [l.render] := by
    rw [Value.leaves_of_leaf (Leaf.boolBody?_render typed), Leaf.withoutBoost_render typed,
      Leaf.bare_of_boost_null none]
  unfold leaves? render? Leaf.render?
  split
  · exact congrArg Except.ok single
  · rfl

end Query

namespace Compiler
variable {c : Compiler} {field : Value} {e : Entry} {n : Criterion} {chain : Chain}
  {r : Option Query}

/-- The leaves that an entry asks for on a field: none for null, one for each item of a choice,
and else a single one. -/
def entryLeaves? (c : Compiler) (field : Value) (e : Entry) : Except Failure (List Value) :=
  if e.value.isNull then .ok []
  else match e.operation with
    | .oneOf => do
      let items ← e.value.items?
      items.mapM fun item => do (← fieldQuery? field item []).render?
    | op => do return [← (← c.standard? op e.value field).render?]

/-- The leaves that the entries of a criterion ask for on the field that it resolves to. -/
def criterionLeaves? (c : Compiler) (n : Criterion) : Except Failure (List Value) :=
  if n.entries.isEmpty then .ok []
  else do
    let field ← c.resolveField? n.field
    n.entries.flatMapM (c.entryLeaves? field)

/-- The leaves that a chain asks for: those of its alternatives, then those of the other
criteria that are negating, then all others. -/
def chainLeaves? (c : Compiler) (chain : Chain) : Except Failure (List Value) :=
  ((chain.filter fun n => n.isOr) ++ (chain.filter fun n => !n.isOr && n.negating) ++
    (chain.filter fun n => !n.isOr && !n.negating)).flatMapM c.criterionLeaves?

theorem leaves_of_single {op : Operation} {v : Value} {q : Query} (single : op ≠ .oneOf)
    (made : c.standard? op v field = .ok q) : q.leaves? = (do return [← q.render?]) := by
  obtain ⟨l, rfl, fresh⟩ := fresh_of_standard? single made
  rw [Query.leaves?_of_fresh fresh]
  cases (Query.leaf l).render? <;> rfl

/-- The leaves of a choice are the queries of its items. -/
theorem leaves_of_items {items : List Value} {qs : List Query}
    (made : (items.mapM fun item => fieldQuery? field item []) = .ok qs) :
    qs.flatMapM Query.leaves? =
      (items.mapM fun item => do (← fieldQuery? field item []).render?) := by
  induction mapM_eq_ok_iff.mp made with
  | nil => rfl
  | @cons item q items qs first rest ih =>
    obtain ⟨l, rfl, fresh⟩ := fresh_of_fieldQuery? rfl first
    rw [List.flatMapM_cons, List.mapM_cons, Query.leaves?_of_fresh fresh,
      ih (mapM_eq_ok_iff.mpr rest), first, ok_bind]
    cases (Query.leaf l).render? <;> rfl

theorem leaves_of_entry (standard : c.style = .standard)
    (made : c.entry? e.operation e.value field = .ok r) :
    Query.leavesOf? r = c.entryLeaves? field e := by
  unfold entryLeaves?
  cases null : e.value.isNull with
  | true =>
    rw [ entry?_of_isNull null] at made
    cases made
    rfl
  | false =>
    simp only [ entry?, null, standard, Bool.false_eq_true, if_false] at made ⊢
    obtain ⟨q, whole, rfl⟩ := map_eq_ok_iff.mp made
    by_cases choice : e.operation = .oneOf
    · rw [choice] at whole ⊢
      obtain ⟨items, qs, listed, each, rfl⟩ := items_of_standard? whole
      simp only [Query.leavesOf?, listed, ok_bind, ← leaves_of_items each]
      rw [Query.leaves?_bool, List.append_nil, List.append_nil]
    · rw [Query.leavesOf?, leaves_of_single choice whole]
      split
      · contradiction
      · rw [whole, ok_bind]

theorem leaves_of_entries (standard : c.style = .standard) {es : List Entry} {qs : List Query}
    (made : c.leaves? field es = .ok qs) :
    qs.flatMapM Query.leaves? = es.flatMapM (c.entryLeaves? field) := by
  induction es generalizing qs with
  | nil =>
    cases made
    rfl
  | cons e es ih =>
    obtain ⟨r, first, rest, others, rfl⟩ := leaves?_cons_eq_ok_iff.mp made
    rw [List.flatMapM_cons, ← ih others, ← leaves_of_entry standard first]
    cases r with
    | none => exact (bind_pure _).symm
    | some q => exact List.flatMapM_cons

/-- Putting queries together, and a boost on them, leaves their leaves as they are. -/
theorem leaves_of_joined {alone : Bool} {qs : List Query} (few : alone = true → qs.length ≤ 1)
    (boost : Binary64) :
    Query.leavesOf? ((Query.joined alone qs).map (·.under boost)) =
      qs.flatMapM Query.leaves? := by
  cases qs with
  | nil => rfl
  | cons q qs =>
    cases alone with
    | true =>
      have rest : qs = [] := by
        have bound := few rfl
        apply List.eq_nil_of_length_eq_zero
        simp only [List.length_cons] at bound
        omega
      subst rest
      change (q.under boost).leaves? = [q].flatMapM Query.leaves?
      rw [Query.leaves?_under, List.flatMapM_cons]
      cases q.leaves? with
      | error e => rfl
      | ok vs => exact congrArg Except.ok (List.append_nil vs).symm
    | false =>
      change ((Query.bool .null [] [] (q :: qs)).under boost).leaves? = _
      rw [Query.leaves?_under, Query.leaves?_bool]
      rfl

theorem leaves_of_fragment (standard : c.style = .standard)
    (made : (c.fragment n).result = .ok r) : Query.leavesOf? r = c.criterionLeaves? n := by
  unfold criterionLeaves?
  obtain ⟨silent, rfl⟩ | ⟨said, field, qs, resolved, leaves, rfl⟩ := fragment_eq_ok_iff.mp made
  · rw [silent]
    rfl
  · have some : n.entries.isEmpty = false := by simpa using said
    have bound := length_of_leaves? leaves
    have few : (n.entries.length == 1) = true → qs.length ≤ 1 := by
      intro one
      rw [beq_iff_eq] at one
      omega
    rw [leaves_of_joined few, leaves_of_entries standard leaves, some, resolved]
    rfl

/-- The clauses of all slots together have the leaves that the chain asks for. -/
theorem leaves_of_routed (standard : c.style = .standard)
    (fragments : ∀ n ∈ chain, (c.fragment n).result = .ok (c.fragmentOf n)) :
    (Clauses.routed c.fragmentOf chain).all.flatMapM Query.leaves? = c.chainLeaves? chain := by
  have known (p : Criterion → Bool) : ∀ n ∈ chain.filter p,
      Query.leavesOf? (c.fragmentOf n) = c.criterionLeaves? n := fun n member =>
    leaves_of_fragment standard (fragments n (List.mem_of_mem_filter member))
  have each (p : Criterion → Bool) : ((chain.filter p).filterMap c.fragmentOf).flatMapM
      Query.leaves? = (chain.filter p).flatMapM c.criterionLeaves? := by
    apply flatMapM_filterMap
    · intro n member none
      rw [← known p n member, none]
      rfl
    · intro n member q some
      rw [← known p n member, some]
      rfl
  simp only [Clauses.all, Clauses.routed, chainLeaves?, flatMapM_append, each]

/-- The leaves of a compiled chain are exactly those that its entries ask for, in that order.
None is lost on the way, none is there twice, and the boosts of the criteria are on none. -/
theorem leaves_of_compiled (c : Compiler) (standard : c.style = .standard) (node : Criterion)
    (chain : Chain) (said : node.entries ≠ []) (r : Option Query)
    (compiled : (c.compile node chain).result = .ok r) :
    Query.leavesOf? r = c.chainLeaves? chain := by
  obtain ⟨fragments, rfl⟩ := compile_eq_ok said compiled
  have all := leaves_of_routed standard fragments
  rw [← all]
  cases empty : (Clauses.routed c.fragmentOf chain).isEmpty with
  | true =>
    rw [(Clauses.isEmpty_iff _).mp empty]
    rfl
  | false =>
    change (Clauses.routed c.fragmentOf chain).toQuery.leaves? = _
    rw [Clauses.toQuery_eq, Query.leaves?_bool]
    rfl

theorem leaves_of_compiled_sample :
    let c := Compiler.ofConfig .default
    c.style = .standard ∧ sampleNode.entries ≠ [] ∧
      ∃ r, (c.compile sampleNode sampleChain).result = .ok r ∧ Query.leavesOf? r = .ok
        [named "query_string" (.map [(.text "query", .text "hotel"),
            (.text "default_field", .text "type")]),
          named "query_string" (.map [(.text "query", .text "motel"),
            (.text "default_field", .text "type")]),
          named "query_string" (.map [(.text "query", .text "*legacy*"),
            (.text "default_field", .text "message"), (.text "analyze_wildcard", .bool true)]),
          named "range" (named "rate" (.map [(.text "gte", .int 1)])),
          named "query_string" (.map [(.text "query", .text "low"),
            (.text "default_field", .text "rate")])] := by
  intro c
  have said : sampleNode.entries ≠ [] := List.cons_ne_nil _ _
  refine ⟨rfl, said, _, rfl, ?_⟩
  rw [leaves_of_compiled c rfl sampleNode sampleChain said _ rfl]
  rfl

end Compiler
end SearchCriteria
