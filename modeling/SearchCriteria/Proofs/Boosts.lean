import SearchCriteria.Proofs.Orderly

/-! What the boosts of a chain do to what it is compiled into: each is on the root of one clause,
and nothing else depends on them. A chain and the same chain without its boosts are compiled into
the same clauses in the same places but for that, and a boost is one more entry where a clause is
rendered. -/
namespace SearchCriteria

/-- What is picked out and made of a list where there may be nothing to make. -/
theorem filterMap_eq_map_filter {α β : Type} {p : α → Prop} [DecidablePred p] {f : α → Option β}
    {g : α → β} {xs : List α} (absent : ∀ x ∈ xs, ¬ p x → f x = none)
    (present : ∀ x ∈ xs, p x → f x = some (g x)) : xs.filterMap f = (xs.filter p).map g := by
  induction xs with
  | nil => rfl
  | cons x xs ih =>
    rw [List.forall_mem_cons] at absent present
    have rest := ih absent.2 present.2
    by_cases holds : p x
    · rw [List.filterMap_cons_some (present.1 holds), rest, List.filter_cons_of_pos (by simpa)]
      rfl
    · rw [List.filterMap_cons_none (absent.1 holds), rest, List.filter_cons_of_neg (by simpa)]

/-- A rendered clause with one more entry at the end of its innermost arguments. -/
def Value.withArgument (v : Value) (name : String) (x : Value) : Value :=
  match v with
  | .map [(.text "bool", .map args)] => named "bool" (.map (args ++ [(.text name, x)]))
  | .map [(.text "query_string", .map args)] =>
    named "query_string" (.map (args ++ [(.text name, x)]))
  | .map [(.text "range", .map [(.text field, .map args)])] =>
    named "range" (named field (.map (args ++ [(.text name, x)])))
  | .map [(.text "fuzzy", .map [(.text field, .map args)])] =>
    named "fuzzy" (named field (.map (args ++ [(.text name, x)])))
  | v => v

instance (n : Criterion) : Decidable n.Contributes :=
  inferInstanceAs (Decidable (∃ e ∈ n.entries, e.value ≠ .null))

namespace Criterion

/-- The boost of a criterion as it is put on a query: null while none is set. -/
def weight (n : Criterion) : Value := if n.hasBoost then .float n.boost else .null

def unweighed (n : Criterion) : Criterion := { n with boost := .plainNaN }

end Criterion

def Chain.unweighed (chain : Chain) : Chain := chain.map Criterion.unweighed

/-- The criteria of a chain that a slot has the clauses of. -/
def Chain.inSlot (slot : Slot) (chain : Chain) : Chain :=
  chain.filter fun n => n.slot = slot ∧ n.Contributes

/-- A boost comes last among the arguments of a leaf. -/
theorem Leaf.render_withBoost? {l m : Leaf} {w : Value} (bare : l.boost = .null) (set : w ≠ .null)
    (rated : l.withBoost? w = some m) : m.render = l.render.withArgument "boost" w := by
  cases l with
  | raw body => contradiction
  | field q | text q | range q | fuzzy q =>
    have none : q.boost = .null := bare
    cases rated
    simp [render, none, argument?, named, Value.withArgument]

namespace Query

/-- Whether a query has a place for a boost. -/
def boostable : Query → Bool
  | .leaf l => l.boostable
  | .bool .. => true
  | .foreign _ => false

/-- A query that no boost is set in, at any depth. -/
inductive Unweighed : Query → Prop where
  | intro {q : Query} : q.boost = .null →
    (∀ slot, ∀ p ∈ q.clausesIn slot, Unweighed p) → Unweighed q

def bare (q : Query) : Query := (q.withBoost? .null).getD q

/-- A clause, and the same clause under a weight. The weight is on its root, and it is one more of
the innermost arguments that the clause is rendered with, unless it is null. -/
structure Weighed (weight : Value) (p q : Query) : Prop where
  root : q.boost = weight
  copy : p.withBoost? weight = some q
  plain : p.Unweighed
  below (slot : Slot) : ∀ r ∈ q.clausesIn slot, r.Unweighed
  refused (f : Failure) : q.render? = .error f ↔ p.render? = .error f
  rendered (v : Value) : p.render? = .ok v → ∃ kind args, v.arguments? = some (kind, args) ∧
    Entries.named? "boost" args = none ∧
    q.render? = .ok (if weight = .null then v else v.withArgument "boost" weight)

section Copy
variable {p q : Query} {w : Value}

theorem withBoost?_of_boostable (room : p.boostable = true) (w : Value) :
    ∃ q, p.withBoost? w = some q := by
  cases p with
  | leaf l =>
    cases l with
    | raw body => contradiction
    | field | text | range | fuzzy => exact ⟨_, rfl⟩
  | bool b s n m => exact ⟨_, rfl⟩
  | foreign x => contradiction

theorem withBoost?_boost (room : p.boostable = true) : p.withBoost? p.boost = some p := by
  cases p with
  | leaf l =>
    cases l with
    | raw body => contradiction
    | field | text | range | fuzzy => rfl
  | bool b s n m => rfl
  | foreign x => contradiction

theorem boost_of_withBoost? (copy : p.withBoost? w = some q) : q.boost = w := by
  cases p with
  | leaf l =>
    cases l with
    | raw body => contradiction
    | field | text | range | fuzzy =>
      cases copy
      rfl
  | bool b s n m =>
    cases copy
    rfl
  | foreign x => contradiction

theorem clausesIn_of_withBoost? (copy : p.withBoost? w = some q) (slot : Slot) :
    q.clausesIn slot = p.clausesIn slot := by
  cases p with
  | leaf l =>
    obtain ⟨m, _, rfl⟩ := Option.map_eq_some_iff.mp copy
    rfl
  | bool b s n m =>
    cases copy
    rfl
  | foreign x => contradiction

/-- A second copy has nothing of the first one's boost. -/
theorem withBoost?_of_withBoost? (copy : p.withBoost? w = some q) (x : Value) :
    q.withBoost? x = p.withBoost? x := by
  cases p with
  | leaf l =>
    cases l with
    | raw body => contradiction
    | field | text | range | fuzzy =>
      cases copy
      rfl
  | bool b s n m =>
    cases copy
    rfl
  | foreign x => contradiction

end Copy

section Rendered
variable {p q : Query} {w v : Value}

/-- The arguments that a query without a boost is rendered with have none among them. -/
theorem arguments_of_bare (room : p.boostable = true) (bare : p.boost = .null)
    (rendered : p.render? = .ok v) :
    ∃ kind args, v.arguments? = some (kind, args) ∧ Entries.named? "boost" args = none := by
  cases p with
  | foreign x => contradiction
  | leaf l =>
    obtain ⟨_, rfl⟩ := render?_leaf_eq_ok_iff.mp rendered
    cases l with
    | raw body => contradiction
    | field l | text l | fuzzy l =>
      have none : l.boost = .null := bare
      refine ⟨_, _, rfl, ?_⟩
      simp [Entries.named?_append, none]
    | range l =>
      have none : l.boost = .null := bare
      refine ⟨_, _, rfl, ?_⟩
      cases l.includeLower <;> cases l.includeUpper <;> simp [Entries.named?_append, none]
  | bool b s n m =>
    obtain rfl : b = .null := bare
    obtain ⟨vs, vn, vm, _, _, _, rfl⟩ := render?_bool_eq_ok_iff.mp rendered
    exact ⟨_, _, rfl, by simp [renderedBody, Entries.named?_append]⟩

/-- What a boost adds to what a query is rendered as. -/
theorem render?_of_withBoost? (bare : p.boost = .null) (set : w ≠ .null)
    (copy : p.withBoost? w = some q) :
    q.render? = p.render?.map (·.withArgument "boost" w) := by
  cases p with
  | foreign x => contradiction
  | leaf l =>
    obtain ⟨m, rated, rfl⟩ := Option.map_eq_some_iff.mp copy
    have same : m.isRenderable = l.isRenderable := by
      rw [← Leaf.isRenderable_bare m, Leaf.bare_withBoost? rated, Leaf.isRenderable_bare]
    rw [render?, render?, Leaf.render?, Leaf.render?, same, Leaf.render_withBoost? bare set rated]
    split <;> rfl
  | bool b s n m =>
    obtain rfl : b = .null := bare
    cases copy
    have body (s n m : List Value) : named "bool" (.map (renderedBody w s n m)) =
        (named "bool" (.map (renderedBody .null s n m))).withArgument "boost" w := by
      simp [named, renderedBody, Value.withArgument, argument?]
    simp only [render?_bool, body]
    cases s.mapM render? <;> cases n.mapM render? <;> cases m.mapM render? <;> rfl

end Rendered

theorem Unweighed.boost {q : Query} (plain : q.Unweighed) : q.boost = .null := by
  cases plain with
  | intro bare _ => exact bare

theorem Unweighed.clauses {q p : Query} {slot : Slot} (plain : q.Unweighed)
    (member : p ∈ q.clausesIn slot) : p.Unweighed := by
  cases plain with
  | intro _ below => exact below slot p member

theorem unweighed_leaf {l : Leaf} (bare : l.boost = .null) : (leaf l).Unweighed :=
  .intro bare nofun

theorem unweighed_bool {s n m : List Query} (each : ∀ q ∈ s ++ n ++ m, q.Unweighed) :
    (bool .null s n m).Unweighed := by
  refine .intro rfl fun slot q member => each q ?_
  cases slot with
  | should => exact List.mem_append_left _ (List.mem_append_left _ member)
  | mustNot => exact List.mem_append_left _ (List.mem_append_right _ member)
  | must => exact List.mem_append_right _ member

/-- A query under the boost of a criterion. A boost that is no number is not put on it. -/
theorem withBoost?_weight {q : Query} (room : q.boostable = true) (bare : q.boost = .null)
    (n : Criterion) : q.withBoost? n.weight = some (q.under n.boost) := by
  unfold under Criterion.weight Criterion.hasBoost
  cases unset : n.boost.isNaN with
  | true =>
    have own := withBoost?_boost room
    rw [bare] at own
    simpa using own
  | false =>
    obtain ⟨p, copy⟩ := withBoost?_of_boostable room (.float n.boost)
    simp [copy]

theorem weighed_under {q : Query} (room : q.boostable = true) (plain : q.Unweighed)
    (n : Criterion) : q.Weighed n.weight (q.under n.boost) := by
  have copy := withBoost?_weight room plain.boost n
  have rendered (set : n.weight ≠ .null) := render?_of_withBoost? plain.boost set copy
  have same (unset : n.weight = .null) : q.under n.boost = q := by
    have own := withBoost?_boost room
    rw [plain.boost, ← unset, copy] at own
    exact Option.some.inj own
  refine ⟨boost_of_withBoost? copy, copy, plain, ?_, ?_, ?_⟩
  · intro slot r member
    rw [clausesIn_of_withBoost? copy] at member
    exact plain.clauses member
  · intro f
    by_cases unset : n.weight = .null
    · rw [same unset]
    · rw [rendered unset, map_eq_error_iff]
  · intro v whole
    obtain ⟨kind, args, known, none⟩ := arguments_of_bare room plain.boost whole
    refine ⟨kind, args, known, none, ?_⟩
    by_cases unset : n.weight = .null
    · rw [if_pos unset, same unset, whole]
    · rw [if_neg unset, rendered unset, whole]
      rfl

theorem bare_under {q : Query} (room : q.boostable = true) (plain : q.Unweighed)
    (n : Criterion) : (q.under n.boost).bare = q := by
  have own := withBoost?_boost room
  rw [plain.boost] at own
  rw [bare, withBoost?_of_withBoost? (withBoost?_weight room plain.boost n), own]
  rfl

end Query

/-- The clauses as they are without a boost on any of them. -/
def Clauses.bare (cs : Clauses) : Clauses where
  should := cs.should.map Query.bare
  mustNot := cs.mustNot.map Query.bare
  must := cs.must.map Query.bare

namespace Clauses

theorem bare_cons (slot : Slot) (q : Query) (cs : Clauses) :
    (cs.cons slot q).bare = cs.bare.cons slot q.bare := by
  cases slot <;> rfl

theorem isEmpty_bare (cs : Clauses) : cs.bare.isEmpty = cs.isEmpty := by simp [isEmpty, bare]

/-- What picking out the criteria of a slot gives is what is in the slot. -/
theorem clausesIn_routed (frag : Criterion → Option Query) (chain : Chain) (slot : Slot) :
    (routed frag chain).toQuery.clausesIn slot =
      (chain.filter fun n => n.slot = slot).filterMap frag := by
  rw [toQuery_eq]
  cases slot with
  | should | mustNot | must =>
    refine congrArg (List.filterMap frag) (List.filter_congr fun n _ => ?_)
    cases alternative : n.isOr <;> cases negated : n.negating <;>
      simp [Criterion.slot, alternative, negated]

end Clauses

namespace Compiler
variable {c : Compiler} {op : Operation} {v field : Value} {q : Query} {n node : Criterion}
  {chain : Chain}

/-- What an operation makes of a value has a place for a boost, and there is none in it. -/
theorem unweighed_of_standard? (made : c.standard? op v field = .ok q) :
    q.boostable = true ∧ q.Unweighed := by
  by_cases choice : op = .oneOf
  · subst choice
    obtain ⟨items, qs, _, each, rfl⟩ := items_of_standard? made
    refine ⟨rfl, Query.unweighed_bool fun p member => ?_⟩
    rw [List.append_nil, List.append_nil] at member
    obtain ⟨item, _, single⟩ := (mem_of_mapM each).mp member
    obtain ⟨l, rfl, fresh⟩ := fresh_of_fieldQuery? rfl single
    exact Query.unweighed_leaf fresh.2
  · obtain ⟨l, rfl, fresh⟩ := fresh_of_standard? choice made
    exact ⟨fresh.1, Query.unweighed_leaf fresh.2⟩

theorem unweighed_of_entry? (standard : c.style = .standard)
    (made : c.entry? op v field = .ok (some q)) : q.boostable = true ∧ q.Unweighed := by
  obtain ⟨_, whole⟩ := standard?_of_entry? standard made
  exact unweighed_of_standard? whole

/-- The fragment of a criterion without a boost has none anywhere, but a place for one. -/
theorem unweighed_of_fragment (standard : c.style = .standard)
    (made : (c.fragment n.unweighed).result = .ok (some q)) :
    q.boostable = true ∧ q.Unweighed := by
  refine fragment_invariant (P := fun q => q.boostable = true ∧ q.Unweighed) ?_ ?_ ?_ made
  · intro qs each
    exact ⟨rfl, Query.unweighed_bool fun q member => (each q member).2⟩
  · intro q plain
    exact plain
  · intro e _ field _ q first
    exact unweighed_of_entry? standard first

theorem fragment_weighed : (c.fragment n).result =
    (c.fragment n.unweighed).result.map (Option.map (·.under n.boost)) := by
  have same : c.unboosted? n.unweighed = c.unboosted? n := rfl
  have plain (q : Query) : q.under n.unweighed.boost = q := rfl
  rw [fragment_result, fragment_result, same]
  cases c.unboosted? n with
  | error e => rfl
  | ok r => cases r <;> simp [Except.map, plain]

/-- A pass over a chain without its boosts finds the same clauses, without their boosts. -/
theorem gather_unweighed (standard : c.style = .standard) (chain : Chain) :
    (c.gather chain.unweighed).result = (c.gather chain).result.map Clauses.bare := by
  induction chain with
  | nil => rfl
  | cons n ns ih =>
    change (c.gather (n.unweighed :: Chain.unweighed ns)).result = _
    rw [gather_cons, gather_cons, fragment_weighed (n := n)]
    cases made : (c.fragment n.unweighed).result with
    | error e => rfl
    | ok r =>
      cases r with
      | none => exact ih
      | some q =>
        obtain ⟨room, plain⟩ := unweighed_of_fragment standard made
        have still : n.unweighed.slot = n.slot := rfl
        simp only [Except.map, Option.map_some, ok_bind, ih]
        cases (c.gather ns).result with
        | error e => rfl
        | ok cs =>
          simp only [Clauses.bare_cons, Query.bare_under room plain, still]

/-- The clauses in a slot are the fragments of the criteria in it, one by one. -/
theorem clausesIn_of_fragments
    (fragments : ∀ n ∈ chain, (c.fragment n).result = .ok (c.fragmentOf n)) (slot : Slot) :
    (Clauses.routed c.fragmentOf chain).toQuery.clausesIn slot =
      (chain.inSlot slot).map fun n => (c.fragmentOf n).getD default := by
  have contributes : ∀ n ∈ chain, c.fragmentOf n = none ↔ ¬ n.Contributes :=
    fun n member => fragment_eq_none_iff (fragments n member)
  have picked : chain.inSlot slot =
      (chain.filter fun n => n.slot = slot).filter fun n => n.Contributes := by
    rw [List.filter_filter]
    exact List.filter_congr fun n _ => by rw [Bool.decide_and, Bool.and_comm]
  rw [Clauses.clausesIn_routed, picked]
  refine filterMap_eq_map_filter (fun n member silent => ?_) (fun n member holds => ?_)
  · exact (contributes n (List.mem_of_mem_filter member)).mpr silent
  · have some := (not_congr (contributes n (List.mem_of_mem_filter member))).mpr (not_not.mpr holds)
    obtain ⟨q, value⟩ := Option.ne_none_iff_exists'.mp some
    rw [value]
    rfl

theorem inSlot_unweighed (slot : Slot) (chain : Chain) :
    chain.unweighed.inSlot slot = Chain.unweighed (chain.inSlot slot) := by
  rw [Chain.inSlot, Chain.unweighed, List.filter_map]
  rfl

theorem compile_unweighed (standard : c.style = .standard) (said : node.entries ≠ []) :
    (c.compile node.unweighed chain.unweighed).result = (c.gather chain).result.map fun cs =>
      if cs.isEmpty then none else some cs.bare.toQuery := by
  have still : node.unweighed.entries ≠ [] := said
  rw [compile_result still, gather_unweighed standard]
  cases (c.gather chain).result with
  | error e => rfl
  | ok cs => simp only [Except.map, Clauses.isEmpty_bare]

/-- A criterion that contributes has a fragment under its boost, and the same one without. -/
theorem exists_weighed (standard : c.style = .standard)
    (fragment : (c.fragment n).result = .ok (c.fragmentOf n)) (contributes : n.Contributes) :
    ∃ f g : Query, (c.fragment n.unweighed).result = .ok (some f) ∧
      (c.fragment n).result = .ok (some g) ∧ f.Weighed n.weight g := by
  obtain ⟨g, value⟩ := (contributes_iff_of_fragment fragment).mp contributes
  rw [value] at fragment
  have whole := fragment
  rw [fragment_weighed] at whole
  obtain ⟨r, bare, under⟩ := map_eq_ok_iff.mp whole
  obtain ⟨f, rfl, rfl⟩ := Option.map_eq_some_iff.mp under
  obtain ⟨room, plain⟩ := unweighed_of_fragment standard bare
  exact ⟨f, _, bare, fragment, Query.weighed_under room plain n⟩

theorem getElem?_slot (fragments : ∀ n ∈ chain, (c.fragment n).result = .ok (c.fragmentOf n))
    {slot : Slot} {i : Nat} (place : (chain.inSlot slot)[i]? = some n)
    (made : (c.fragment n).result = .ok (some q)) :
    ((Clauses.routed c.fragmentOf chain).toQuery.clausesIn slot)[i]? = some q := by
  rw [clausesIn_of_fragments fragments, List.getElem?_map, place, Option.map_some,
    fragmentOf_eq made, Option.getD_some]

/-- The i-th clause of a slot is that of the i-th criterion in it, with boosts and without. -/
theorem exists_clauses_weighed (standard : c.style = .standard)
    (fragments : ∀ n ∈ chain, (c.fragment n).result = .ok (c.fragmentOf n))
    (bare : ∀ n ∈ chain.unweighed, (c.fragment n).result = .ok (c.fragmentOf n)) {slot : Slot}
    {i : Nat} (place : (chain.inSlot slot)[i]? = some n) : ∃ f g : Query,
      ((Clauses.routed c.fragmentOf chain.unweighed).toQuery.clausesIn slot)[i]? = some f ∧
      ((Clauses.routed c.fragmentOf chain).toQuery.clausesIn slot)[i]? = some g ∧
      (c.fragment n.unweighed).result = .ok (some f) ∧ (c.fragment n).result = .ok (some g) ∧
      f.Weighed n.weight g := by
  have listed : n ∈ chain ∧ n.slot = slot ∧ n.Contributes := by
    simpa [Chain.inSlot] using List.mem_of_getElem? place
  obtain ⟨f, g, first, second, same⟩ :=
    exists_weighed standard (fragments n listed.1) listed.2.2
  have place' : (chain.unweighed.inSlot slot)[i]? = some n.unweighed := by
    rw [inSlot_unweighed, Chain.unweighed, List.getElem?_map, place]
    rfl
  exact ⟨f, g, getElem?_slot bare place' first, getElem?_slot fragments place second, first,
    second, same⟩

/-- Without boosts in the chain there is none in its query. -/
theorem unweighed_of_compile (standard : c.style = .standard)
    (compiled : (c.compile node chain.unweighed).result = .ok (some q)) : q.Unweighed := by
  have each : ∀ n ∈ chain.unweighed, ∀ f, (c.fragment n).result = .ok (some f) → f.Unweighed := by
    intro n member f made
    obtain ⟨m, _, rfl⟩ := List.mem_map.mp member
    exact (unweighed_of_fragment standard made).2
  obtain ⟨s, n, m, rfl, all⟩ := compile_invariant each compiled
  exact Query.unweighed_bool all

/-- A chain is compiled into a query, or refused, where it would be without its boosts. -/
theorem compile_unweighed_iff (standard : c.style = .standard) :
    let weighed := (c.compile node chain).result
    let plain := (c.compile node.unweighed chain.unweighed).result
    (∀ f, weighed = .error f ↔ plain = .error f) ∧ (weighed = .ok none ↔ plain = .ok none) ∧
      ∀ q, weighed = .ok (some q) → ∃ p, plain = .ok (some p) := by
  intro weighed plain
  by_cases said : node.entries = []
  · have still : node.unweighed.entries = [] := said
    simp [weighed, plain, compile, clauses, said, still]
  have whole : weighed = _ := compile_result said
  have bare : plain = _ := compile_unweighed standard said
  rw [whole, bare]
  cases (c.gather chain).result with
  | error e => simp [Except.map]
  | ok cs => cases cs.isEmpty <;> simp [Except.map]

/-- Whatever the boosts of a chain are, it is compiled where it would be without them, and into the
same query but for them. The clauses of each slot are those of the criteria in it, in their order.
Each is the clause that there would be without boosts, under the boost of its own criterion; there
is no boost on the query itself and none below the root of a clause. -/
theorem compile_weighed (c : Compiler) (standard : c.style = .standard) (node : Criterion)
    (chain : Chain) :
    let weighed := (c.compile node chain).result
    let plain := (c.compile node.unweighed chain.unweighed).result
    (∀ f, weighed = .error f ↔ plain = .error f) ∧ (weighed = .ok none ↔ plain = .ok none) ∧
    ∀ q, weighed = .ok (some q) → ∃ p, plain = .ok (some p) ∧ q.boost = .null ∧ p.Unweighed ∧
      ∀ slot, (q.clausesIn slot).length = (chain.inSlot slot).length ∧
        (p.clausesIn slot).length = (chain.inSlot slot).length ∧
        ∀ (i : Nat) (n : Criterion), (chain.inSlot slot)[i]? = some n →
          ∃ f g : Query, (p.clausesIn slot)[i]? = some f ∧ (q.clausesIn slot)[i]? = some g ∧
            (c.fragment n.unweighed).result = .ok (some f) ∧
            (c.fragment n).result = .ok (some g) ∧ f.Weighed n.weight g := by
  intro weighed plain
  obtain ⟨refused, silent, found⟩ := compile_unweighed_iff standard
  refine ⟨refused, silent, fun q compiled => ?_⟩
  obtain ⟨p, other⟩ := found q compiled
  have below := unweighed_of_compile standard other
  obtain ⟨fragments, rfl⟩ := compile_eq_some compiled
  obtain ⟨bare, rfl⟩ := compile_eq_some other
  have top : (Clauses.routed c.fragmentOf chain).toQuery.boost = .null := by
    rw [Clauses.toQuery_eq, Query.boost]
  refine ⟨_, other, top, below, fun slot => ⟨?_, ?_, fun i n place => ?_⟩⟩
  · rw [clausesIn_of_fragments fragments, List.length_map]
  · rw [clausesIn_of_fragments bare, List.length_map, inSlot_unweighed, Chain.unweighed,
      List.length_map]
  · exact exists_clauses_weighed standard fragments bare place

theorem compile_weighed_sample :
    let c := Compiler.ofConfig .default
    let zero : Value := .float (.zero false)
    c.style = .standard ∧ ∃ p q f g : Query,
      (c.compile sampleNode.unweighed sampleChain.unweighed).result = .ok (some p) ∧
      (c.compile sampleNode sampleChain).result = .ok (some q) ∧
      (p.clausesIn .must)[0]? = some f ∧ (q.clausesIn .must)[0]? = some g ∧
      f.boost = .null ∧ g.boost = zero ∧
      ∃ v w, f.render? = .ok v ∧ g.render? = .ok w ∧ w = v.withArgument "boost" zero := by
  intro c zero
  obtain ⟨_, _, same⟩ := compile_weighed c rfl sampleNode sampleChain
  obtain ⟨p, plain, _, _, slots⟩ := same _ rfl
  obtain ⟨_, _, clauses⟩ := slots .must
  have place : (sampleChain.inSlot .must)[0]? = some samplePlain := by decide
  obtain ⟨f, g, first, second, made, _, weighed⟩ := clauses 0 samplePlain place
  cases made
  obtain ⟨kind, args, _, _, rendered⟩ := weighed.rendered _ rfl
  exact ⟨rfl, p, _, _, g, plain, rfl, first, second, rfl, weighed.root, _, _, rfl, rendered, rfl⟩

end Compiler
end SearchCriteria
