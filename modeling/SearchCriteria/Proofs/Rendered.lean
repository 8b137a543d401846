import SearchCriteria.Proofs.Entries
import SearchCriteria.Proofs.Outcome
import SearchCriteria.Query.Render

/-! What a rendered query says by itself: its clauses, slot by slot, its leaves, and what is
left of it without its boost. None of this looks at the query that was rendered. -/
namespace SearchCriteria

namespace Entries
variable {name other : String}

@[simp] theorem named?_slot? (vs : List Value) :
    named? name (slot? other vs) = if other = name ∧ vs ≠ [] then some (.list vs) else none := by
  cases vs <;> simp [slot?]

@[simp] theorem named?_argument? (v : Value) :
    named? name (argument? other v) = if other = name ∧ v ≠ .null then some v else none := by
  cases v <;> simp [argument?]

end Entries

namespace Value

/-- The body of a rendered query with clauses. -/
def boolBody? : Value → Option Entries
  | .map [(.text "bool", .map body)] => some body
  | _ => none

/-- The clauses that a body has in a slot, none where the slot is left out. -/
def clausesIn (slot : String) (body : Entries) : List Value :=
  match Entries.named? slot body with
  | some (.list vs) => vs
  | _ => []

theorem sizeOf_clause {slot : String} {body : Entries} {v w : Value}
    (shape : v.boolBody? = some body) (member : w ∈ clausesIn slot body) : sizeOf w < sizeOf v := by
  unfold clausesIn at member
  split at member
  · rename_i vs found
    obtain ⟨key, entry⟩ := Entries.mem_of_named? found
    unfold boolBody? at shape
    split at shape
    · cases shape
      have inner := List.sizeOf_lt_of_mem entry
      have clause := List.sizeOf_lt_of_mem member
      simp only [Prod.mk.sizeOf_spec, list.sizeOf_spec] at inner
      simp only [map.sizeOf_spec, List.cons.sizeOf_spec, List.nil.sizeOf_spec,
        Prod.mk.sizeOf_spec]
      omega
    · contradiction
  · contradiction

/-- The arguments of a query without a boost among them. -/
def unboosted (args : Entries) : Entries := args.filter fun e => !e.1.alike (.text "boost")

/-- A rendered query without its boost, which stands among its innermost arguments. -/
def withoutBoost (v : Value) : Value :=
  match v with
  | .map [(.text kind, .map args)] =>
    if kind = "bool" ∨ kind = "query_string" then named kind (.map (unboosted args))
    else if kind = "range" ∨ kind = "fuzzy" then
      match args with
      | [(field, .map inner)] => named kind (.map [(field, .map (unboosted inner))])
      | _ => v
    else v
  | v => v

/-- The clauses of a body, slot by slot. -/
def clauses (body : Entries) : List Value :=
  clausesIn "should" body ++ clausesIn "must_not" body ++ clausesIn "must" body

/-- The leaves of a rendered query from left to right, without their boosts. -/
def leaves (v : Value) : List Value :=
  match _shape : v.boolBody? with
  | some body => (clauses body).attach.flatMap fun w => w.val.leaves
  | none => [v.withoutBoost]
termination_by sizeOf v
decreasing_by
  have member := w.property
  simp only [clauses, List.mem_append] at member
  rcases member with (member | member) | member
  all_goals exact sizeOf_clause _shape member

theorem leaves_of_body {v : Value} {body : Entries} (shape : v.boolBody? = some body) :
    v.leaves = (clauses body).flatMap leaves := by
  rw [leaves]
  split
  · rename_i other same
    obtain rfl := Option.some.inj (same.symm.trans shape)
    simp [List.flatMap_def]
  · rename_i same
    simp [shape] at same

theorem leaves_of_leaf {v : Value} (shape : v.boolBody? = none) :
    v.leaves = [v.withoutBoost] := by
  rw [leaves]
  split
  · rename_i other same
    simp [shape] at same
  · rfl

theorem unboosted_append (es fs : Entries) :
    unboosted (es ++ fs) = unboosted es ++ unboosted fs := List.filter_append es fs

theorem unboosted_argument? (name : String) (v : Value) :
    unboosted (argument? name v) = if name = "boost" then [] else argument? name v := by
  by_cases same : name = "boost" <;> cases v <;> simp [argument?, unboosted, same]

theorem unboosted_slot? {name : String} (h : name ≠ "boost") (vs : List Value) :
    unboosted (slot? name vs) = slot? name vs := by
  cases vs <;> simp [slot?, unboosted, h]

theorem withoutBoost_args {kind : String} (known : kind = "bool" ∨ kind = "query_string")
    (args : Entries) :
    (named kind (.map args)).withoutBoost = named kind (.map (unboosted args)) := by
  simp [named, withoutBoost, known]

theorem withoutBoost_field {kind : String} (known : kind = "range" ∨ kind = "fuzzy")
    (field : String) (args : Entries) :
    (named kind (named field (.map args))).withoutBoost =
      named kind (named field (.map (unboosted args))) := by
  rcases known with rfl | rfl <;> simp [named, withoutBoost]

/-- Taking out the boost leaves the clauses of a bool where they are. -/
theorem boolBody?_withoutBoost (v : Value) :
    v.withoutBoost.boolBody? = v.boolBody?.map unboosted := by
  unfold withoutBoost
  split
  · rename_i kind args
    split
    · rename_i known
      rcases known with rfl | rfl <;> simp [boolBody?, named]
    · rename_i other
      have notBool : kind ≠ "bool" := fun same => other (.inl same)
      have none : (map [(text kind, map args)]).boolBody? = none := by simp [boolBody?, notBool]
      rw [none]
      split
      · split
        · simp [boolBody?, named, notBool]
        · exact none
      · exact none
  · rename_i other
    have none : v.boolBody? = none := by
      unfold boolBody?
      split
      · rename_i body
        exact (other _ body rfl).elim
      · rfl
    simp [none]

theorem clausesIn_unboosted {slot : String} (h : slot ≠ "boost") (body : Entries) :
    clausesIn slot (unboosted body) = clausesIn slot body := by
  have same : Entries.named? slot (unboosted body) = Entries.named? slot body := by
    apply Entries.named?_filter
    intro e _ key
    rw [alike_text_iff] at key
    simp [key, h]
  rw [clausesIn, clausesIn, same]

/-- Queries that differ in their boost at most are both leaves, or have the same clauses. -/
theorem same_shape {v w : Value} (same : v.withoutBoost = w.withoutBoost) :
    (v.boolBody? = none ∧ w.boolBody? = none) ∨
      ∃ body other, v.boolBody? = some body ∧ w.boolBody? = some other ∧
        ∀ slot, slot ≠ "boost" → clausesIn slot body = clausesIn slot other := by
  have shape : v.boolBody?.map unboosted = w.boolBody?.map unboosted := by
    rw [← boolBody?_withoutBoost, ← boolBody?_withoutBoost, same]
  cases left : v.boolBody? <;> cases right : w.boolBody? <;> simp only [left, right] at shape
  · exact .inl ⟨rfl, rfl⟩
  · contradiction
  · contradiction
  · rename_i body other
    refine .inr ⟨body, other, rfl, rfl, fun slot h => ?_⟩
    rw [← clausesIn_unboosted h, ← clausesIn_unboosted h other, Option.some.inj shape]

/-- The boost of a query is on none of its leaves, unless it is one. -/
theorem leaves_congr {v w : Value} (same : v.withoutBoost = w.withoutBoost) :
    v.leaves = w.leaves := by
  obtain ⟨left, right⟩ | ⟨body, other, left, right, slots⟩ := same_shape same
  · rw [leaves_of_leaf left, leaves_of_leaf right, same]
  · rw [leaves_of_body left, leaves_of_body right, clauses, clauses, slots _ (by decide),
      slots _ (by decide), slots _ (by decide)]

end Value

namespace Leaf

/-- Whether a query without clauses has a place for a boost. -/
def boostable : Leaf → Bool
  | .raw _ => false
  | _ => true

def bare (q : Leaf) : Leaf := (q.withBoost? .null).getD q

theorem bare_of_boost_null {q : Leaf} (none : q.boost = .null) : q.bare = q := by
  cases q with
  | raw body => rfl
  | field q | text q | range q | fuzzy q =>
    cases q
    cases none
    rfl

theorem bare_withBoost? {q p : Leaf} {b : Value} (rated : q.withBoost? b = some p) :
    p.bare = q.bare := by
  cases q with
  | raw body => contradiction
  | field q | text q | range q | fuzzy q =>
    cases rated
    rfl

theorem boolBody?_render {q : Leaf} (typed : q.boostable = true) : q.render.boolBody? = none := by
  cases q with
  | raw body => contradiction
  | field q | text q | range q | fuzzy q => simp [render, named, Value.boolBody?]

/-- Taking the boost out of what a leaf is rendered as is rendering it without a boost. -/
theorem withoutBoost_render {q : Leaf} (typed : q.boostable = true) :
    q.render.withoutBoost = q.bare.render := by
  cases q with
  | raw body => contradiction
  | field q =>
    simp only [render, Value.withoutBoost_args (.inr rfl), Value.unboosted_append,
      Value.unboosted_argument?]
    rfl
  | text q =>
    simp only [render, Value.withoutBoost_args (.inr rfl), Value.unboosted_append,
      Value.unboosted_argument?]
    rfl
  | range q =>
    have lower : (if q.includeLower then "gte" else "gt") ≠ "boost" := by split <;> decide
    have upper : (if q.includeUpper then "lte" else "lt") ≠ "boost" := by split <;> decide
    simp only [render, Value.withoutBoost_field (.inl rfl), Value.unboosted_append,
      Value.unboosted_argument?, lower, upper, if_false]
    rfl
  | fuzzy q =>
    simp only [render, Value.withoutBoost_field (.inr rfl), Value.unboosted_append,
      Value.unboosted_argument?]
    rfl

theorem isRenderable_bare (q : Leaf) : q.bare.isRenderable = q.isRenderable := by
  cases q <;> rfl

theorem render?_map_withoutBoost {q : Leaf} (typed : q.boostable = true) :
    q.render?.map Value.withoutBoost = q.bare.render? := by
  simp only [render?, isRenderable_bare, ← withoutBoost_render typed]
  split <;> rfl

theorem boostable_of_withBoost? {q p : Leaf} {b : Value} (rated : q.withBoost? b = some p) :
    q.boostable = true ∧ p.boostable = true := by
  cases q with
  | raw body => contradiction
  | field q | text q | range q | fuzzy q =>
    cases rated
    exact ⟨rfl, rfl⟩

end Leaf

/-- The body that a query with clauses is rendered with. -/
def renderedBody (boost : Value) (should mustNot must : List Value) : Entries :=
  slot? "should" should ++ slot? "must_not" mustNot ++ slot? "must" must ++ argument? "boost" boost

section Body
variable (b : Value) (s n m : List Value)

/-- A slot that is left out has no clauses, and no slot is taken for another one. -/
theorem clausesIn_renderedBody :
    Value.clausesIn "should" (renderedBody b s n m) = s ∧
    Value.clausesIn "must_not" (renderedBody b s n m) = n ∧
    Value.clausesIn "must" (renderedBody b s n m) = m := by
  have read (vs : List Value) : (match if vs = [] then none else some (Value.list vs) with
      | some (.list ws) => ws
      | _ => []) = vs := by
    by_cases empty : vs = [] <;> simp [empty]
  refine ⟨?_, ?_, ?_⟩
  all_goals
    simp [Value.clausesIn, renderedBody, Entries.named?_append, read]

theorem clauses_renderedBody : Value.clauses (renderedBody b s n m) = s ++ n ++ m := by
  obtain ⟨should, mustNot, must⟩ := clausesIn_renderedBody b s n m
  rw [Value.clauses, should, mustNot, must]

end Body

namespace Query

def boost : Query → Value
  | .leaf q => q.boost
  | .bool b _ _ _ => b
  | .foreign _ => .null

theorem render?_leaf_eq_ok_iff {l : Leaf} {v : Value} :
    (Query.leaf l).render? = .ok v ↔ l.isRenderable = true ∧ l.render = v := by
  rw [render?, Leaf.render?]
  split <;> simp_all

theorem renderAll?_eq_mapM (qs : List Query) : renderAll? qs = qs.mapM render? := by
  induction qs with
  | nil => rfl
  | cons q qs ih => rw [renderAll?, ih, List.mapM_cons]

theorem render?_bool (b : Value) (s n m : List Query) :
    (Query.bool b s n m).render? = do
      let s ← s.mapM render?
      let n ← n.mapM render?
      let m ← m.mapM render?
      return named "bool" (.map (renderedBody b s n m)) := by
  simp only [render?, renderAll?_eq_mapM]
  rfl

theorem render?_bool_eq_ok_iff {b v : Value} {s n m : List Query} :
    (Query.bool b s n m).render? = .ok v ↔ ∃ vs vn vm, s.mapM render? = .ok vs ∧
      n.mapM render? = .ok vn ∧ m.mapM render? = .ok vm ∧
      v = named "bool" (.map (renderedBody b vs vn vm)) := by
  simp only [render?_bool, bind_eq_ok_iff]
  constructor
  · rintro ⟨vs, should, vn, mustNot, vm, must, last⟩
    exact ⟨vs, vn, vm, should, mustNot, must, (Except.ok.inj last).symm⟩
  · rintro ⟨vs, vn, vm, should, mustNot, must, rfl⟩
    exact ⟨vs, should, vn, mustNot, vm, must, rfl⟩

def Renders (q : Query) : Prop := ∃ v, q.render? = .ok v

theorem renders_bool {b : Value} {s n m : List Query} :
    (Query.bool b s n m).Renders ↔
      (∀ q ∈ s, q.Renders) ∧ (∀ q ∈ n, q.Renders) ∧ ∀ q ∈ m, q.Renders := by
  simp only [Renders, ← exists_mapM_iff, render?_bool, bind_eq_ok_iff]
  constructor
  · rintro ⟨_, vs, should, vn, mustNot, vm, must, _⟩
    exact ⟨⟨vs, should⟩, ⟨vn, mustNot⟩, vm, must⟩
  · rintro ⟨⟨vs, should⟩, ⟨vn, mustNot⟩, vm, must⟩
    exact ⟨_, vs, should, vn, mustNot, vm, must, rfl⟩

/-- A boost is all that a copy with one adds to what a query is rendered as. -/
theorem render?_withBoost? {q p : Query} {boost : Value} (rated : q.withBoost? boost = some p) :
    p.render?.map Value.withoutBoost = q.render?.map Value.withoutBoost := by
  cases q with
  | foreign x => contradiction
  | leaf l =>
    obtain ⟨m, copy, rfl⟩ := Option.map_eq_some_iff.mp rated
    obtain ⟨typed, copied⟩ := Leaf.boostable_of_withBoost? copy
    simp only [render?, Leaf.render?_map_withoutBoost typed, Leaf.render?_map_withoutBoost copied,
      Leaf.bare_withBoost? copy]
  | bool b s n m =>
    cases rated
    have body (b : Value) (s n m : List Value) :
        (named "bool" (.map (renderedBody b s n m))).withoutBoost =
          named "bool" (.map (renderedBody .null s n m)) := by
      simp only [Value.withoutBoost_args (.inl rfl), renderedBody, Value.unboosted_append,
        Value.unboosted_slot? (show "should" ≠ "boost" by decide),
        Value.unboosted_slot? (show "must_not" ≠ "boost" by decide),
        Value.unboosted_slot? (show "must" ≠ "boost" by decide), Value.unboosted_argument?]
      rfl
    simp only [render?_bool]
    cases s.mapM render? <;> cases n.mapM render? <;> cases m.mapM render? <;>
      simp [pure, Except.pure, Except.map, body]

end Query
end SearchCriteria
