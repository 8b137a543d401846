import SearchCriteria.Compiler.Basic
import SearchCriteria.Criteria.Document
import SearchCriteria.Proofs.Outcome

/-! Where the fragments of a chain go. Going through a chain once and putting each fragment
into its slot gives the same three lists as picking the criteria of each slot out of the whole
chain, and the first refusal among the fragments is the refusal of the chain. -/
namespace SearchCriteria

def Query.clausesIn (slot : Slot) : Query → List Query
  | .bool _ should mustNot must => match slot with
    | .should => should
    | .mustNot => mustNot
    | .must => must
  | _ => []

namespace Clauses

/-- The clauses of a chain whose criteria have known fragments, slot by slot. -/
def routed (frag : Criterion → Option Query) (chain : Chain) : Clauses where
  should := (chain.filter fun n => n.isOr).filterMap frag
  mustNot := (chain.filter fun n => !n.isOr && n.negating).filterMap frag
  must := (chain.filter fun n => !n.isOr && !n.negating).filterMap frag

/-- All clauses, in the order in which they are added. -/
def all (cs : Clauses) : List Query := cs.should ++ cs.mustNot ++ cs.must

theorem routed_cons_some {frag : Criterion → Option Query} {n : Criterion} {q : Query}
    (h : frag n = some q) (ns : Chain) :
    routed frag (n :: ns) = (routed frag ns).cons n.slot q := by
  unfold routed Criterion.slot cons
  cases alternative : n.isOr <;> cases negated : n.negating <;> simp [alternative, negated, h]

theorem routed_cons_none {frag : Criterion → Option Query} {n : Criterion}
    (h : frag n = none) (ns : Chain) : routed frag (n :: ns) = routed frag ns := by
  unfold routed
  cases alternative : n.isOr <;> cases negated : n.negating <;> simp [alternative, negated, h]

theorem all_cons (slot : Slot) (q : Query) (cs : Clauses) :
    (cs.cons slot q).all.Perm (q :: cs.all) := by
  cases slot with
  | should => exact .refl _
  | mustNot =>
    simp only [all, cons, List.append_assoc, List.cons_append]
    exact List.perm_middle
  | must =>
    simp only [all, cons]
    exact List.perm_middle

/-- Every fragment has one place. -/
theorem all_routed (frag : Criterion → Option Query) (chain : Chain) :
    (routed frag chain).all.Perm (chain.filterMap frag) := by
  induction chain with
  | nil => exact .refl _
  | cons n ns ih =>
    cases h : frag n with
    | none =>
      rw [routed_cons_none h, List.filterMap_cons_none h]
      exact ih
    | some q =>
      rw [routed_cons_some h, List.filterMap_cons_some h]
      exact (all_cons _ _ _).trans (ih.cons q)

theorem isEmpty_iff (cs : Clauses) : cs.isEmpty = true ↔ cs.all = [] := by
  simp [isEmpty, all, and_assoc]

theorem routed_isEmpty_iff (frag : Criterion → Option Query) (chain : Chain) :
    (routed frag chain).isEmpty = true ↔ ∀ n ∈ chain, frag n = none := by
  rw [isEmpty_iff, ← List.filterMap_eq_nil_iff]
  have same := all_routed frag chain
  exact ⟨fun h => (h ▸ same).nil_eq.symm, fun h => (h ▸ same).eq_nil⟩

theorem addClause_bool (slot : Slot) (q : Query) (b : Value) (s n m : List Query) :
    (Query.bool b s n m).addClause slot q =
      .bool b (if slot = .should then s ++ [q] else s) (if slot = .mustNot then n ++ [q] else n)
        (if slot = .must then m ++ [q] else m) := by
  cases slot <;> rfl

theorem foldl_addClause (slot : Slot) (b : Value) (s n m qs : List Query) :
    (qs.map (slot, ·)).foldl (fun q a => Query.addClause q a.1 a.2) (.bool b s n m) =
      .bool b (if slot = .should then s ++ qs else s) (if slot = .mustNot then n ++ qs else n)
        (if slot = .must then m ++ qs else m) := by
  induction qs generalizing s n m with
  | nil => simp
  | cons q qs ih =>
    rw [List.map_cons, List.foldl_cons, addClause_bool, ih]
    cases slot <;> simp

/-- Adding clause after clause fills the three slots with what was gathered for them. -/
theorem toQuery_eq (cs : Clauses) : cs.toQuery = .bool .null cs.should cs.mustNot cs.must := by
  simp [toQuery, additions, foldl_addClause]

end Clauses

namespace Compiler
variable {c : Compiler} {node n : Criterion} {chain : Chain}

theorem gather_cons (n : Criterion) (ns : Chain) :
    (c.gather (n :: ns)).result = (c.fragment n).result >>= fun r => match r with
      | some q => (c.gather ns).result.map (Clauses.cons n.slot q)
      | none => (c.gather ns).result := by
  simp only [gather, Traced.result_bind]
  refine bind_congr fun r => ?_
  cases r with
  | none => rfl
  | some q => exact (Traced.result_bind _ _).trans (bind_ok_comp _ _)

theorem gather_cons_some {q : Query} (h : (c.fragment n).result = .ok (some q)) (ns : Chain) :
    (c.gather (n :: ns)).result = (c.gather ns).result.map (Clauses.cons n.slot q) := by
  rw [gather_cons, h]
  rfl

theorem gather_cons_none (h : (c.fragment n).result = .ok none) (ns : Chain) :
    (c.gather (n :: ns)).result = (c.gather ns).result := by
  rw [gather_cons, h]
  rfl

theorem gather_cons_error {e : Failure} (h : (c.fragment n).result = .error e) (ns : Chain) :
    (c.gather (n :: ns)).result = .error e := by
  rw [gather_cons, h]
  rfl

/-- One pass over a chain without refusals fills the slots as picking them out would. -/
theorem gather_of_fragments {frag : Criterion → Option Query}
    (h : ∀ n ∈ chain, (c.fragment n).result = .ok (frag n)) :
    (c.gather chain).result = .ok (.routed frag chain) := by
  induction chain with
  | nil => rfl
  | cons n ns ih =>
    have first := h n List.mem_cons_self
    have rest := ih fun m member => h m (List.mem_cons_of_mem n member)
    cases value : frag n with
    | none => rw [gather_cons_none (value ▸ first), Clauses.routed_cons_none value, rest]
    | some q =>
      rw [gather_cons_some (value ▸ first), Clauses.routed_cons_some value, rest]
      rfl

/-- The pass stops at the first refusal, whatever follows. -/
theorem gather_refused {before after : Chain} {e : Failure}
    (ok : ∀ m ∈ before, ∃ r, (c.fragment m).result = .ok r)
    (refused : (c.fragment n).result = .error e) :
    (c.gather (before ++ n :: after)).result = .error e := by
  induction before with
  | nil => exact gather_cons_error refused after
  | cons m ms ih =>
    have rest := ih fun k member => ok k (List.mem_cons_of_mem m member)
    obtain ⟨r, first⟩ := ok m List.mem_cons_self
    cases r with
    | none => rw [List.cons_append, gather_cons_none first, rest]
    | some q =>
      rw [List.cons_append, gather_cons_some first, rest]
      rfl

def fragmentOf (c : Compiler) (n : Criterion) : Option Query :=
  (c.fragment n).result.toOption.join

theorem fragmentOf_eq {r : Option Query} (made : (c.fragment n).result = .ok r) :
    c.fragmentOf n = r := by
  simp [fragmentOf, made, Except.toOption]

theorem fragment_of_gather {cs : Clauses} (h : (c.gather chain).result = .ok cs) :
    ∀ n ∈ chain, (c.fragment n).result = .ok (c.fragmentOf n) := by
  induction chain generalizing cs with
  | nil => simp
  | cons n ns ih =>
    have known : (c.fragment n).result = .ok (c.fragmentOf n) ∧
        ∃ ds, (c.gather ns).result = .ok ds := by
      cases first : (c.fragment n).result with
      | error e =>
        rw [gather_cons_error first] at h
        contradiction
      | ok r =>
        refine ⟨by rw [fragmentOf_eq first], ?_⟩
        cases r with
        | none => exact ⟨cs, gather_cons_none first ns ▸ h⟩
        | some q =>
          rw [gather_cons_some first, map_eq_ok_iff] at h
          exact ⟨h.choose, h.choose_spec.1⟩
    obtain ⟨first, ds, rest⟩ := known
    intro m member
    rcases List.mem_cons.mp member with rfl | member
    · exact first
    · exact ih rest m member

/-- A chain is compiled if its criteria are, and from their fragments alone. -/
theorem clauses_result (h : node.entries ≠ []) :
    (c.clauses node chain).result =
      (c.gather chain).result.map fun cs => if cs.isEmpty then none else some cs := by
  have said : node.entries.isEmpty = false := by simpa using h
  simp only [clauses, said, Bool.false_eq_true, if_false, Traced.result_bind]
  cases (c.gather chain).result with
  | error e => rfl
  | ok cs => cases empty : cs.isEmpty <;> simp [empty, Except.map]

theorem compile_result (h : node.entries ≠ []) :
    (c.compile node chain).result =
      (c.gather chain).result.map fun cs => if cs.isEmpty then none else some cs.toQuery := by
  simp only [compile, Traced.result_bind, clauses_result h]
  cases (c.gather chain).result with
  | error e => rfl
  | ok cs => cases empty : cs.isEmpty <;> simp [empty, Except.map]

/-- A chain that is compiled has a fragment or none for each criterion, and is compiled into what
these come to slot by slot. -/
theorem compile_eq_ok {r : Option Query} (said : node.entries ≠ [])
    (compiled : (c.compile node chain).result = .ok r) :
    (∀ n ∈ chain, (c.fragment n).result = .ok (c.fragmentOf n)) ∧
      r = if (Clauses.routed c.fragmentOf chain).isEmpty then none
        else some (Clauses.routed c.fragmentOf chain).toQuery := by
  rw [compile_result said, map_eq_ok_iff] at compiled
  obtain ⟨cs, gathered, whole⟩ := compiled
  have fragments := fragment_of_gather gathered
  rw [gather_of_fragments fragments] at gathered
  cases gathered
  exact ⟨fragments, whole.symm⟩

theorem compile_eq_some {q : Query} (compiled : (c.compile node chain).result = .ok (some q)) :
    (∀ n ∈ chain, (c.fragment n).result = .ok (c.fragmentOf n)) ∧
      q = (Clauses.routed c.fragmentOf chain).toQuery := by
  have said : node.entries ≠ [] := by
    intro silent
    simp [compile, clauses, silent] at compiled
  obtain ⟨fragments, whole⟩ := compile_eq_ok said compiled
  refine ⟨fragments, ?_⟩
  split at whole
  · contradiction
  · exact Option.some.inj whole

/-- What is true of all fragments of a chain is true of the clauses that it is compiled into. -/
theorem compile_invariant {P : Query → Prop} {q : Query}
    (each : ∀ n ∈ chain, ∀ f, (c.fragment n).result = .ok (some f) → P f)
    (compiled : (c.compile node chain).result = .ok (some q)) :
    ∃ s n m, q = .bool .null s n m ∧ ∀ f ∈ s ++ n ++ m, P f := by
  obtain ⟨fragments, rfl⟩ := compile_eq_some compiled
  refine ⟨_, _, _, Clauses.toQuery_eq _, fun f member => ?_⟩
  obtain ⟨n, listed, fragment⟩ :=
    List.mem_filterMap.mp ((Clauses.all_routed c.fragmentOf chain).mem_iff.mp member)
  exact each n listed f (fragment ▸ fragments n listed)

def sampleNode : Criterion :=
  ⟨.text "type", [⟨.oneOf, .list [.text "hotel", .text "motel"]⟩], .plainNaN, true, false⟩

/-- A negation one entry of which asks for nothing. -/
def sampleBarred : Criterion :=
  ⟨.text "message", [⟨.contains, .text "legacy"⟩, ⟨.fuzzy, .null⟩], .plainNaN, false, true⟩

/-- Two conditions under a boost of zero. -/
def samplePlain : Criterion :=
  ⟨.text "rate", [⟨.between, .tuple [.int 1, .null]⟩, ⟨.equals, .text "low"⟩], .zero false,
    false, false⟩

/-- A criterion of each slot, and one that asks for nothing at all. -/
def sampleChain : Chain :=
  [sampleNode, sampleBarred, samplePlain,
    ⟨.text "note", [⟨.equals, .null⟩], .plainNaN, true, true⟩]

/-- What a chain is compiled into. The first criterion that is refused is the refusal of the
chain. Otherwise there is no query where no criterion has a fragment, and else one without a
boost, which has the fragments of each slot in the order of the chain, each fragment once, and
to which they are added slot by slot. -/
theorem compile_routes (c : Compiler) (node : Criterion) (chain : Chain)
    (said : node.entries ≠ []) :
    (∀ before n after e, chain = before ++ n :: after →
      (∀ m ∈ before, ∃ r, (c.fragment m).result = .ok r) → (c.fragment n).result = .error e →
      (c.compile node chain).result = .error e) ∧
    (∀ frag : Criterion → Option Query, (∀ n ∈ chain, (c.fragment n).result = .ok (frag n)) →
      let should := (chain.filter fun n => n.isOr).filterMap frag
      let mustNot := (chain.filter fun n => !n.isOr && n.negating).filterMap frag
      let must := (chain.filter fun n => !n.isOr && !n.negating).filterMap frag
      ((c.compile node chain).result = .ok none ↔ ∀ n ∈ chain, frag n = none) ∧
      ((∃ n ∈ chain, frag n ≠ none) →
        (c.compile node chain).result = .ok (some (.bool .null should mustNot must)) ∧
        (should ++ mustNot ++ must).Perm (chain.filterMap frag) ∧
        ∃ cs, (c.clauses node chain).result = .ok (some cs) ∧
          (c.compile node chain).result = .ok (some (cs.additions.foldl
            (fun q a => q.addClause a.1 a.2) (.bool .null [] [] []))) ∧
          cs.additions = should.map (.should, ·) ++ mustNot.map (.mustNot, ·) ++
            must.map (.must, ·))) := by
  constructor
  · rintro before n after e rfl ok refused
    rw [compile_result said, gather_refused ok refused]
    rfl
  · intro frag fragments should mustNot must
    have gathered := gather_of_fragments fragments
    have compiled : (c.compile node chain).result = _ := compile_result said
    rw [gathered] at compiled
    have empty := Clauses.routed_isEmpty_iff frag chain
    constructor
    · rw [compiled, ← empty]
      cases full : (Clauses.routed frag chain).isEmpty <;> simp [Except.map, full]
    · rintro ⟨n, member, present⟩
      have full : (Clauses.routed frag chain).isEmpty = false := by
        rw [Bool.eq_false_iff, Ne, empty]
        exact fun absent => present (absent n member)
      have clauses : (c.clauses node chain).result = .ok (some (.routed frag chain)) := by
        simp [clauses_result said, gathered, full, Except.map]
      simp only [Except.map, full, Bool.false_eq_true, if_false] at compiled
      exact ⟨compiled.trans (by rw [Clauses.toQuery_eq]; rfl), Clauses.all_routed frag chain,
        _, clauses, compiled, rfl⟩

theorem compile_routes_sample :
    let c := Compiler.ofConfig .default
    sampleNode.entries ≠ [] ∧
      (c.compile sampleNode sampleChain).result = .ok (some (.bool .null
        [.bool .null [.leaf (.field ⟨.null, "type", .text "hotel", .null⟩),
          .leaf (.field ⟨.null, "type", .text "motel", .null⟩)] [] []]
        [.bool .null [] [] [.leaf (.field ⟨.null, "message", .text "*legacy*", .bool true⟩)]]
        [.bool (.float (.zero false)) [] []
          [.leaf (.range ⟨.null, "rate", .int 1, .null, true, true⟩),
            .leaf (.field ⟨.null, "rate", .text "low", .null⟩)]])) := by
  intro c
  have said : sampleNode.entries ≠ [] := List.cons_ne_nil _ _
  have fragments : ∀ n ∈ sampleChain, (c.fragment n).result = .ok (c.fragmentOf n) := by
    simp only [sampleChain, List.forall_mem_cons]
    exact ⟨rfl, rfl, rfl, rfl, by simp⟩
  obtain ⟨_, routed⟩ := (compile_routes c sampleNode sampleChain said).2 c.fragmentOf fragments
  have some : c.fragmentOf sampleNode ≠ none := Option.some_ne_none _
  exact ⟨said, (routed ⟨sampleNode, List.mem_cons_self, some⟩).1⟩

end Compiler
end SearchCriteria
