import SearchCriteria.Proofs.Fragment
import SearchCriteria.Proofs.Routing

/-! What a compiled chain means to a search engine. The engine is known by what it makes of
clauses that are no bool, and bools follow the rule for their slots. A rendered chain then asks
for what its criteria ask for one by one, however they were wrapped and weighed on the way. -/
namespace SearchCriteria
variable {δ : Type}

/-- A search engine by the documents that match a clause. A boost weighs a clause, and does not
change what it matches. -/
structure Engine (δ : Type) where
  clause : Value → δ → Prop
  boost_blind : ∀ {v w : Value} (d : δ),
    v.withoutBoost = w.withoutBoost → (clause v d ↔ clause w d)

namespace Engine

/-- A document matches a bool when it matches all that must match, nothing that must not, and,
where nothing must match and something should, any of that. -/
def Matches (E : Engine δ) (d : δ) (v : Value) : Prop :=
  match _shape : v.boolBody? with
  | some body =>
    (∀ w, ∀ _ : w ∈ Value.clausesIn "must" body, E.Matches d w) ∧
    (∀ w, ∀ _ : w ∈ Value.clausesIn "must_not" body, ¬ E.Matches d w) ∧
    (Value.clausesIn "must" body = [] → Value.clausesIn "should" body ≠ [] →
      ∃ w, ∃ _ : w ∈ Value.clausesIn "should" body, E.Matches d w)
  | none => E.clause v d
termination_by sizeOf v
decreasing_by all_goals exact Value.sizeOf_clause _shape ‹_›

variable {E : Engine δ} {d : δ}

theorem matches_of_body {v : Value} {body : Entries} (shape : v.boolBody? = some body) :
    E.Matches d v ↔ (∀ w ∈ Value.clausesIn "must" body, E.Matches d w) ∧
      (∀ w ∈ Value.clausesIn "must_not" body, ¬ E.Matches d w) ∧
      (Value.clausesIn "must" body = [] → Value.clausesIn "should" body ≠ [] →
        ∃ w ∈ Value.clausesIn "should" body, E.Matches d w) := by
  rw [Matches]
  split
  · rename_i other same
    obtain rfl := Option.some.inj (same.symm.trans shape)
    simp only [exists_prop]
  · rename_i same
    simp [shape] at same

theorem matches_of_leaf {v : Value} (shape : v.boolBody? = none) :
    E.Matches d v ↔ E.clause v d := by
  rw [Matches]
  split
  · rename_i other same
    simp [shape] at same
  · exact .rfl

theorem matches_congr {v w : Value} (same : v.withoutBoost = w.withoutBoost) :
    E.Matches d v ↔ E.Matches d w := by
  obtain ⟨left, right⟩ | ⟨body, other, left, right, slots⟩ := Value.same_shape same
  · rw [matches_of_leaf left, matches_of_leaf right]
    exact E.boost_blind d same
  · rw [matches_of_body left, matches_of_body right, slots "must" (by decide),
      slots "must_not" (by decide), slots "should" (by decide)]

/-- Whether a document matches a query as it is rendered. -/
def Satisfies (E : Engine δ) (d : δ) (q : Query) : Prop :=
  ∃ v, q.render? = .ok v ∧ E.Matches d v

theorem satisfies_of_render? {q : Query} {v : Value} (rendered : q.render? = .ok v) :
    E.Satisfies d q ↔ E.Matches d v := by
  simp [Satisfies, rendered]

section Rendered
variable {qs : List Query} {vs : List Value}

theorem forall_matches_iff (rendered : qs.mapM Query.render? = .ok vs) :
    (∀ w ∈ vs, E.Matches d w) ↔ ∀ q ∈ qs, E.Satisfies d q := by
  constructor
  · intro all q member
    obtain ⟨w, one⟩ := exists_mapM_iff.mp ⟨vs, rendered⟩ q member
    exact ⟨w, one, all w ((mem_of_mapM rendered).mpr ⟨q, member, one⟩)⟩
  · intro all w member
    obtain ⟨q, clause, one⟩ := (mem_of_mapM rendered).mp member
    exact (satisfies_of_render? one).mp (all q clause)

theorem exists_matches_iff (rendered : qs.mapM Query.render? = .ok vs) :
    (∃ w ∈ vs, E.Matches d w) ↔ ∃ q ∈ qs, E.Satisfies d q := by
  constructor
  · rintro ⟨w, member, matched⟩
    obtain ⟨q, clause, one⟩ := (mem_of_mapM rendered).mp member
    exact ⟨q, clause, w, one, matched⟩
  · rintro ⟨q, member, w, one, matched⟩
    exact ⟨w, (mem_of_mapM rendered).mpr ⟨q, member, one⟩, matched⟩

theorem nil_iff_of_mapM (rendered : qs.mapM Query.render? = .ok vs) : vs = [] ↔ qs = [] := by
  rw [← List.length_eq_zero_iff, ← (mapM_eq_ok_iff.mp rendered).length_eq, List.length_eq_zero_iff]

end Rendered

/-- The rule for a bool, told of the queries in it. -/
theorem satisfies_bool {b : Value} {s n m : List Query} {v : Value}
    (rendered : (Query.bool b s n m).render? = .ok v) :
    E.Satisfies d (.bool b s n m) ↔ (∀ q ∈ m, E.Satisfies d q) ∧ (∀ q ∈ n, ¬ E.Satisfies d q) ∧
      (m = [] → s ≠ [] → ∃ q ∈ s, E.Satisfies d q) := by
  rw [satisfies_of_render? rendered]
  obtain ⟨vs, vn, vm, should, mustNot, must, rfl⟩ := Query.render?_bool_eq_ok_iff.mp rendered
  obtain ⟨inShould, inMustNot, inMust⟩ := clausesIn_renderedBody b vs vn vm
  have shape : (named "bool" (.map (renderedBody b vs vn vm))).boolBody? = _ := rfl
  rw [matches_of_body shape, inShould, inMustNot, inMust, forall_matches_iff must,
    exists_matches_iff should, Ne, nil_iff_of_mapM must, nil_iff_of_mapM should]
  have barred : (∀ w ∈ vn, ¬ E.Matches d w) ↔ ∀ q ∈ n, ¬ E.Satisfies d q := by
    have other := not_congr (exists_matches_iff (E := E) (d := d) mustNot)
    simpa only [not_exists, not_and] using other
  rw [barred]

theorem satisfies_congr {p q : Query}
    (same : p.render?.map Value.withoutBoost = q.render?.map Value.withoutBoost)
    (satisfied : E.Satisfies d p) : E.Satisfies d q := by
  obtain ⟨v, rendered, matched⟩ := satisfied
  rw [rendered] at same
  obtain ⟨w, other, blind⟩ := map_eq_ok_iff.mp same.symm
  exact ⟨w, other, (matches_congr blind).mpr matched⟩

theorem satisfies_under (q : Query) (boost : Binary64) :
    E.Satisfies d (q.under boost) ↔ E.Satisfies d q :=
  ⟨satisfies_congr (q.render?_under boost), satisfies_congr (q.render?_under boost).symm⟩

end Engine

/-- The leaf of an entry as it is rendered, unless the entry asks for nothing. -/
def Compiler.rendered? (c : Compiler) (n : Criterion) (e : Entry) :
    Except Failure (Option Value) := do
  let field ← c.resolveField? n.field
  match ← c.entry? e.operation e.value field with
  | none => return none
  | some q => return some (← q.render?)

/-- Whether a criterion holds on a document: all that its entries ask for matches. -/
def Engine.Holds (E : Engine δ) (c : Compiler) (d : δ) (n : Criterion) : Prop :=
  ∀ e ∈ n.entries, e.value ≠ .null → ∃ v, c.rendered? n e = .ok (some v) ∧ E.Matches d v

section Fragment
variable {E : Engine δ} {d : δ} {c : Compiler} {n : Criterion} {field : Value} {qs : List Query}
  {f : Query}

theorem rendered?_eq_some_iff (resolved : c.resolveField? n.field = .ok field) {e : Entry}
    {v : Value} : c.rendered? n e = .ok (some v) ↔
      ∃ q, c.entry? e.operation e.value field = .ok (some q) ∧ q.render? = .ok v := by
  simp only [Compiler.rendered?, resolved, ok_bind]
  cases made : c.entry? e.operation e.value field with
  | error f => simp
  | ok r =>
    cases r with
    | none => simp [pure, Except.pure]
    | some q =>
      simp only [ok_bind, bind_eq_ok_iff, Except.ok.injEq, Option.some.injEq, exists_eq_left']
      simp [pure, Except.pure]

/-- What is true of the leaves of a criterion is true of what its entries ask for. -/
theorem forall_leaves_iff (resolved : c.resolveField? n.field = .ok field)
    (leaves : c.leaves? field n.entries = .ok qs) (P : Value → Prop) :
    (∀ q ∈ qs, ∃ v, q.render? = .ok v ∧ P v) ↔
      ∀ e ∈ n.entries, e.value ≠ .null → ∃ v, c.rendered? n e = .ok (some v) ∧ P v := by
  constructor
  · intro all e member present
    obtain ⟨r, single⟩ := Compiler.entry?_of_leaves? leaves e member
    obtain ⟨q, rfl⟩ := Compiler.exists_of_entry? present single
    obtain ⟨v, rendered, holds⟩ := all q ((Compiler.mem_of_leaves? leaves).mpr ⟨e, member, single⟩)
    exact ⟨v, (rendered?_eq_some_iff resolved).mpr ⟨q, single, rendered⟩, holds⟩
  · intro all q member
    obtain ⟨e, entry, single⟩ := (Compiler.mem_of_leaves? leaves).mp member
    obtain ⟨v, whole, holds⟩ := all e entry (Compiler.present_of_entry? single)
    obtain ⟨p, same, rendered⟩ := (rendered?_eq_some_iff resolved).mp whole
    rw [single] at same
    cases same
    exact ⟨v, rendered, holds⟩

/-- A fragment is rendered exactly when all that the entries ask for is. -/
theorem renders_fragment (made : (c.fragment n).result = .ok (some f)) :
    f.Renders ↔ ∀ e ∈ n.entries, e.value ≠ .null → ∃ v, c.rendered? n e = .ok (some v) := by
  obtain ⟨field, qs, q, resolved, leaves, rfl, shape⟩ := Compiler.fragment_eq_some made
  have all := forall_leaves_iff resolved leaves fun _ => True
  simp only [and_true] at all
  rw [Query.renders_under, ← all]
  rcases shape with rfl | ⟨_, rfl⟩
  · simp [Query.Renders]
  · rw [Query.renders_bool]
    simp [Query.Renders]

/-- A document that matches a fragment is one on which the criterion holds. -/
theorem satisfies_fragment (made : (c.fragment n).result = .ok (some f)) (renders : f.Renders) :
    E.Satisfies d f ↔ E.Holds c d n := by
  obtain ⟨field, qs, q, resolved, leaves, rfl, shape⟩ := Compiler.fragment_eq_some made
  rw [Query.renders_under] at renders
  rw [Engine.satisfies_under, Engine.Holds, ← forall_leaves_iff resolved leaves]
  rcases shape with rfl | ⟨full, rfl⟩
  · simp [Engine.Satisfies]
  · obtain ⟨v, rendered⟩ := renders
    rw [Engine.satisfies_bool rendered]
    simp [full, Engine.Satisfies]

end Fragment

section Slot
variable {c : Compiler} {chain : Chain} {p : Criterion → Bool} {P : Query → Prop}
  {H : Criterion → Prop}

/-- What is true of the fragments in a slot is true of the criteria that contribute to it. -/
theorem forall_slot_iff (fragments : ∀ n ∈ chain, (c.fragment n).result = .ok (c.fragmentOf n))
    (same : ∀ n ∈ chain, ∀ f, (c.fragment n).result = .ok (some f) → (P f ↔ H n)) :
    (∀ f ∈ (chain.filter p).filterMap c.fragmentOf, P f) ↔
      ∀ n ∈ chain, n.Contributes → p n = true → H n := by
  simp only [List.mem_filterMap, List.mem_filter]
  constructor
  · intro all n member contributes slot
    obtain ⟨f, value⟩ :=
      (Compiler.contributes_iff_of_fragment (fragments n member)).mp contributes
    have made := fragments n member
    rw [value] at made
    exact (same n member f made).mp (all f ⟨n, ⟨member, slot⟩, value⟩)
  · rintro all f ⟨n, ⟨member, slot⟩, value⟩
    have made := fragments n member
    rw [value] at made
    have contributes := (Compiler.contributes_iff_of_fragment made).mpr ⟨f, rfl⟩
    exact (same n member f made).mpr (all n member contributes slot)

theorem exists_slot_iff (fragments : ∀ n ∈ chain, (c.fragment n).result = .ok (c.fragmentOf n))
    (same : ∀ n ∈ chain, ∀ f, (c.fragment n).result = .ok (some f) → (P f ↔ H n)) :
    (∃ f ∈ (chain.filter p).filterMap c.fragmentOf, P f) ↔
      ∃ n ∈ chain, n.Contributes ∧ p n = true ∧ H n := by
  have other := not_congr (forall_slot_iff (p := p) fragments fun n member f made =>
    not_congr (same n member f made))
  simpa only [not_forall, not_not, exists_prop] using other

theorem slot_eq_nil_iff (fragments : ∀ n ∈ chain, (c.fragment n).result = .ok (c.fragmentOf n)) :
    (chain.filter p).filterMap c.fragmentOf = [] ↔
      ∀ n ∈ chain, n.Contributes → p n = false := by
  have none := forall_slot_iff (p := p) (P := fun _ => False) (H := fun _ => False) fragments
    fun _ _ _ _ => .rfl
  simpa [List.eq_nil_iff_forall_not_mem] using none

/-- What is true of all clauses of a chain is true of the criteria that contribute. -/
theorem forall_clause_iff (fragments : ∀ n ∈ chain, (c.fragment n).result = .ok (c.fragmentOf n))
    (same : ∀ n ∈ chain, ∀ f, (c.fragment n).result = .ok (some f) → (P f ↔ H n)) :
    (∀ f ∈ (Clauses.routed c.fragmentOf chain).all, P f) ↔
      ∀ n ∈ chain, n.Contributes → H n := by
  simpa [(Clauses.all_routed c.fragmentOf chain).mem_iff] using
    forall_slot_iff (p := fun _ => true) fragments same

theorem exists_clause_iff (fragments : ∀ n ∈ chain, (c.fragment n).result = .ok (c.fragmentOf n))
    (same : ∀ n ∈ chain, ∀ f, (c.fragment n).result = .ok (some f) → (P f ↔ H n)) :
    (∃ f ∈ (Clauses.routed c.fragmentOf chain).all, P f) ↔
      ∃ n ∈ chain, n.Contributes ∧ H n := by
  simpa [(Clauses.all_routed c.fragmentOf chain).mem_iff] using
    exists_slot_iff (p := fun _ => true) fragments same

end Slot

namespace Compiler
variable {δ : Type} {c : Compiler} {node : Criterion} {chain : Chain} {q : Query}

/-- A compiled chain is rendered exactly when all that its entries ask for is. -/
theorem renders_compiled (compiled : (c.compile node chain).result = .ok (some q)) :
    q.Renders ↔ ∀ n ∈ chain, ∀ e ∈ n.entries, e.value ≠ .null →
      ∃ w, c.rendered? n e = .ok (some w) := by
  obtain ⟨fragments, rfl⟩ := compile_eq_some compiled
  have same : ∀ n ∈ chain, ∀ f, (c.fragment n).result = .ok (some f) → (f.Renders ↔ _) :=
    fun n _ f made => renders_fragment made
  rw [Clauses.toQuery_eq, Query.renders_bool]
  simp only [Clauses.routed, forall_slot_iff fragments same]
  constructor
  · rintro ⟨should, mustNot, must⟩ n member e entry present
    have contributes : n.Contributes := ⟨e, entry, present⟩
    cases alternative : n.isOr with
    | true => exact should n member contributes alternative e entry present
    | false =>
      cases negated : n.negating with
      | true => exact mustNot n member contributes (by simp [alternative, negated]) e entry present
      | false => exact must n member contributes (by simp [alternative, negated]) e entry present
  · intro all
    exact ⟨fun n member _ _ => all n member, fun n member _ _ => all n member,
      fun n member _ _ => all n member⟩

/-- What a compiled chain means. A criterion contributes when an entry of it asks for something,
and holds where all that its entries ask for matches. The rendered query matches when the
contributing criteria that are plain hold and the negating ones do not, and when a plain one
contributes, or no alternative does, or an alternative that contributes holds. It can be rendered
exactly when all that the entries ask for can. -/
theorem compile_matches_iff (E : Engine δ) (c : Compiler) (node : Criterion) (chain : Chain)
    (q : Query) (compiled : (c.compile node chain).result = .ok (some q)) :
    ((∃ v, q.render? = .ok v) ↔ ∀ n ∈ chain, ∀ e ∈ n.entries, e.value ≠ .null →
      ∃ w, c.rendered? n e = .ok (some w)) ∧
    ∀ v, q.render? = .ok v → ∀ d, E.Matches d v ↔
      (∀ n ∈ chain, n.Contributes → n.isOr = false ∧ n.negating = false → E.Holds c d n) ∧
      (∀ n ∈ chain, n.Contributes → n.isOr = false ∧ n.negating = true → ¬ E.Holds c d n) ∧
      ((∃ n ∈ chain, n.Contributes ∧ n.isOr = false ∧ n.negating = false) ∨
        (∀ n ∈ chain, n.Contributes → n.isOr = false) ∨
        ∃ n ∈ chain, n.Contributes ∧ n.isOr = true ∧ E.Holds c d n) := by
  refine ⟨renders_compiled compiled, fun v rendered d => ?_⟩
  have parts := (renders_compiled compiled).mp ⟨v, rendered⟩
  obtain ⟨fragments, rfl⟩ := compile_eq_some compiled
  have same : ∀ n ∈ chain, ∀ f, (c.fragment n).result = .ok (some f) →
      (E.Satisfies d f ↔ E.Holds c d n) := fun n member f made =>
    satisfies_fragment made ((renders_fragment made).mpr (parts n member))
  have barred := fun n member f made => not_congr (same n member f made)
  rw [← Engine.satisfies_of_render? rendered]
  rw [Clauses.toQuery_eq] at rendered ⊢
  rw [Engine.satisfies_bool rendered]
  simp only [Clauses.routed, forall_slot_iff fragments same, forall_slot_iff fragments barred,
    exists_slot_iff fragments same, Ne, slot_eq_nil_iff fragments, Bool.and_eq_true,
    Bool.not_eq_true']
  have plain : (∀ n ∈ chain, n.Contributes → (!n.isOr && !n.negating) = false) ↔
      ¬ ∃ n ∈ chain, n.Contributes ∧ n.isOr = false ∧ n.negating = false := by
    simp
  rw [plain, imp_iff_not_or, imp_iff_not_or, not_not, not_not]

/-- The engine whose documents are lists of the clauses that they match. -/
def sampleEngine : Engine (List Value) where
  clause v d := v.withoutBoost ∈ d
  boost_blind d same := by rw [same]

def sampleDocument : List Value :=
  [named "range" (named "rate" (.map [(.text "gte", .int 1)])),
    named "query_string" (.map [(.text "query", .text "low"),
      (.text "default_field", .text "rate")])]

theorem compile_matches_iff_sample :
    let c := Compiler.ofConfig .default
    ∃ q v, (c.compile sampleNode sampleChain).result = .ok (some q) ∧ q.render? = .ok v ∧
      sampleEngine.Matches sampleDocument v := by
  intro c
  refine ⟨_, _, rfl, rfl, ?_⟩
  have meaning := (compile_matches_iff sampleEngine c sampleNode sampleChain _ rfl).2
  refine (meaning _ rfl sampleDocument).mpr ⟨?_, ?_, .inl ?_⟩
  · have holds : sampleEngine.Holds c sampleDocument samplePlain := by
      simp only [Engine.Holds, samplePlain, List.forall_mem_cons]
      refine ⟨fun _ => ⟨_, rfl, (Engine.matches_of_leaf rfl).mpr ?_⟩,
        fun _ => ⟨_, rfl, (Engine.matches_of_leaf rfl).mpr ?_⟩, by simp⟩
      · exact List.mem_cons_self
      · exact List.mem_cons_of_mem _ List.mem_cons_self
    simp [sampleChain, sampleNode, sampleBarred, holds]
  · have fails : ¬ sampleEngine.Holds c sampleDocument sampleBarred := by
      intro holds
      have shown : c.rendered? sampleBarred ⟨.contains, .text "legacy"⟩ =
          .ok (some (named "query_string" (.map [(.text "query", .text "*legacy*"),
            (.text "default_field", .text "message"), (.text "analyze_wildcard", .bool true)]))) :=
        rfl
      obtain ⟨v, rendered, matched⟩ := holds _ List.mem_cons_self (by simp)
      rw [shown] at rendered
      cases rendered
      have clause := (Engine.matches_of_leaf rfl).mp matched
      simp [sampleEngine, sampleDocument, named, Value.withoutBoost, Value.unboosted] at clause
    simp [sampleChain, sampleNode, samplePlain, fails]
  · simp [sampleChain, samplePlain, Criterion.Contributes]

end Compiler
end SearchCriteria
