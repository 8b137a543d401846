import SearchCriteria.Proofs.Terms

/-! Tests of all parts of a value, however deep. What a chain is compiled into and rendered as
passes such a test where what its criteria bring in passes: a boost, and the bounds of a range. All
else in it is a name, a text or a flag. -/
namespace SearchCriteria

/-- A test of the keys in a value and of those parts that hold no others. It is passed by names, and
by what a query may be rendered with besides numbers. -/
structure PartTest where
  key : Value → Bool
  leaf : Value → Bool
  key_text (s : String) : key (.text s) = true
  leaf_text (s : String) : leaf (.text s) = true
  leaf_bool (b : Bool) : leaf (.bool b) = true
  leaf_null : leaf .null = true

/-- A query with a place for a boost and none in it: a fresh leaf, or clauses. -/
def Query.IsUnrated (q : Query) : Prop :=
  (∃ l : Leaf, q = .leaf l ∧ l.Fresh) ∨ ∃ s n m, q = .bool .null s n m

namespace PartTest

attribute [simp] key_text leaf_text leaf_bool leaf_null

mutual

/-- Whether all parts of a value pass. What is written as its own text has no parts. -/
def passes (t : PartTest) : Value → Bool
  | .list xs | .tuple xs => passesAll t xs
  | .map es => passesEntries t es
  | v => t.leaf v

def passesAll (t : PartTest) : List Value → Bool
  | [] => true
  | x :: xs => passes t x && passesAll t xs

def passesEntries (t : PartTest) : List (Value × Value) → Bool
  | [] => true
  | (k, v) :: es => t.key k && passes t v && passesEntries t es

end

section Values
variable (t : PartTest) {v : Value} {vs : List Value} {es fs : Entries} {name : String}

theorem passesAll_eq (vs : List Value) : t.passesAll vs = (vs.map t.passes).all id := by
  induction vs with
  | nil => rfl
  | cons v vs ih => rw [passesAll, ih, List.map_cons, List.all_cons, id]

theorem passesEntries_eq (es : Entries) :
    t.passesEntries es = (es.map fun e => t.key e.1 && t.passes e.2).all id := by
  induction es with
  | nil => rfl
  | cons e es ih => rw [passesEntries, ih, List.map_cons, List.all_cons, id]

variable {t}

@[simp] theorem passes_null : t.passes .null = true := t.leaf_null

@[simp] theorem passes_text (s : String) : t.passes (.text s) = true := t.leaf_text s

@[simp] theorem passes_bool (b : Bool) : t.passes (.bool b) = true := t.leaf_bool b

@[simp] theorem passesEntries_append :
    t.passesEntries (es ++ fs) = (t.passesEntries es && t.passesEntries fs) := by
  simp [passesEntries_eq]

@[simp] theorem passesEntries_argument? : t.passesEntries (argument? name v) = t.passes v := by
  cases v <;> simp [argument?, passesEntries]

@[simp] theorem passesEntries_slot? : t.passesEntries (slot? name vs) = t.passesAll vs := by
  cases vs <;> simp [slot?, passesEntries, passes, passesAll]

@[simp] theorem passes_named : t.passes (named name v) = t.passes v := by
  simp [named, passes, passesEntries]

end Values

section Queries
variable {t : PartTest} {q : Query} {b : Value} {s n m qs : List Query} {x : Binary64}

mutual

/-- Whether all that a query is rendered with passes. -/
def queryPasses (t : PartTest) : Query → Bool
  | .leaf l => t.passes l.render
  | .bool b s n m => t.passes b && queriesPass t s && queriesPass t n && queriesPass t m
  | .foreign _ => true

def queriesPass (t : PartTest) : List Query → Bool
  | [] => true
  | q :: qs => queryPasses t q && queriesPass t qs

end

theorem queriesPass_iff : t.queriesPass qs = true ↔ ∀ q ∈ qs, t.queryPasses q = true := by
  induction qs with
  | nil => simp [queriesPass]
  | cons q qs ih => simp [queriesPass, ih]

theorem queryPasses_bool_iff : t.queryPasses (.bool b s n m) = true ↔
    t.passes b = true ∧ ∀ q ∈ s ++ n ++ m, t.queryPasses q = true := by
  simp only [queryPasses, Bool.and_eq_true, queriesPass_iff, List.forall_mem_append, and_assoc]

mutual

/-- The parts of a rendered query are those of its leaves and boosts. -/
theorem passes_render? (t : PartTest) (q : Query) (v : Value) (rendered : q.render? = .ok v) :
    t.passes v = t.queryPasses q := by
  cases q with
  | leaf l =>
    obtain ⟨_, rfl⟩ := Query.render?_leaf_eq_ok_iff.mp rendered
    rfl
  | foreign x =>
    simp only [Query.render?, Foreign.render?] at rendered
    split at rendered
    · cases rendered
      exact passes_null
    · cases rendered
  | bool b s n m =>
    obtain ⟨vs, should, rest⟩ := bind_eq_ok_iff.mp rendered
    obtain ⟨vn, mustNot, rest⟩ := bind_eq_ok_iff.mp rest
    obtain ⟨vm, must, last⟩ := bind_eq_ok_iff.mp rest
    cases last
    simp only [passes_named, passes, passesEntries_append, passesEntries_slot?,
      passesEntries_argument?, queryPasses, passesAll_renderAll? t s vs should,
      passesAll_renderAll? t n vn mustNot, passesAll_renderAll? t m vm must]
    cases t.passes b <;> simp

theorem passesAll_renderAll? (t : PartTest) (qs : List Query) (vs : List Value)
    (rendered : Query.renderAll? qs = .ok vs) : t.passesAll vs = t.queriesPass qs := by
  cases qs with
  | nil =>
    cases rendered
    rfl
  | cons q qs =>
    obtain ⟨v, first, rest⟩ := bind_eq_ok_iff.mp rendered
    obtain ⟨others, later, last⟩ := bind_eq_ok_iff.mp rest
    cases last
    rw [passesAll, queriesPass, passes_render? t q v first,
      passesAll_renderAll? t qs others later]

end

theorem passes_withBoost? {l k : Leaf} (fresh : l.Fresh) (rated : l.withBoost? b = some k) :
    t.passes k.render = (t.passes b && t.passes l.render) := by
  obtain ⟨typed, none⟩ := fresh
  cases l with
  | raw body => cases typed
  | field p | text p | range p | fuzzy p =>
    cases rated
    simp only [Leaf.boost] at none
    simp [Leaf.render, none, passes, passesEntries, Bool.and_comm, Bool.and_left_comm]

/-- An expression or a fuzzy term without a boost is made of texts. -/
theorem passes_worded {l : Leaf} (worded : (∃ p, l = .text p) ∨ ∃ p, l = .fuzzy p)
    (none : l.boost = .null) : t.passes l.render = true := by
  obtain ⟨p, rfl⟩ | ⟨p, rfl⟩ := worded
  all_goals
    simp only [Leaf.boost] at none
    simp only [Leaf.render, none, passes_named, passes, passesEntries_append,
      passesEntries_argument?, passesEntries]
  · cases p.field <;> simp [passes, passesAll]
  · simp

/-- A boost adds nothing but itself, where it is set. -/
theorem queryPasses_under_iff (unrated : q.IsUnrated) : t.queryPasses (q.under x) = true ↔
    (x.isNaN = false → t.leaf (.float x) = true) ∧ t.queryPasses q = true := by
  unfold Query.under
  split
  · rename_i unset
    simp [unset]
  · rename_i set
    have number : (x.isNaN = false → t.leaf (.float x) = true) ↔ t.passes (.float x) = true :=
      forall_prop_of_true (Bool.eq_false_iff.mpr set)
    rw [number]
    obtain ⟨l, rfl, fresh⟩ | ⟨s, n, m, rfl⟩ := unrated
    · cases rated : l.withBoost? (.float x) with
      | none =>
        cases l with
        | raw body => cases fresh.1
        | field p | text p | range p | fuzzy p => cases rated
      | some k =>
        have whole := passes_withBoost? (t := t) fresh rated
        simp [Query.withBoost?, rated, queryPasses, whole]
    · change t.queryPasses (.bool (.float x) s n m) = true ↔ _
      rw [queryPasses_bool_iff, queryPasses_bool_iff]
      exact and_congr_right fun _ => (and_iff_right passes_null).symm

end Queries
end PartTest

/-- A criterion that brings nothing into a query but what passes: a boost, where it is set, and the
bounds of its ranges. -/
structure Criterion.Passes (t : PartTest) (n : Criterion) : Prop where
  boost : n.boost.isNaN = false → t.leaf (.float n.boost) = true
  bounds : ∀ e ∈ n.entries, e.operation = .between → t.passes e.value = true

namespace Compiler
variable {t : PartTest} {c : Compiler} {op : Operation} {v field : Value} {q f : Query}
  {n node : Criterion} {chain : Chain}

theorem unrated_of_standard? (made : c.standard? op v field = .ok q) : q.IsUnrated := by
  by_cases several : op = .oneOf
  · subst several
    obtain ⟨_, qs, _, _, rfl⟩ := items_of_standard? made
    exact .inr ⟨qs, [], [], rfl⟩
  · exact .inl (fresh_of_standard? several made)

theorem queryPasses_of_fieldQuery? {flag : Entries} (none : Entries.named? "boost" flag = none)
    (made : fieldQuery? field v flag = .ok q) : t.queryPasses q = true := by
  obtain ⟨name, mark, rfl, rfl | ⟨b, rfl⟩⟩ := field_of_fieldQuery? none made
  · simp [PartTest.queryPasses, Leaf.render, PartTest.passes, PartTest.passesEntries]
  · simp [PartTest.queryPasses, Leaf.render, PartTest.passes, PartTest.passesEntries]

/-- All that an entry brings into a query as it is are the bounds of a range. The rest becomes a
text. -/
theorem queryPasses_standard?_iff (accepted : Entry.Accepted ⟨op, v⟩) (present : v ≠ .null)
    (made : c.standard? op v field = .ok q) :
    t.queryPasses q = true ↔ (op = .between → t.passes v = true) := by
  cases op with
  | equals => simp [queryPasses_of_fieldQuery? rfl made]
  | contains | startsWith | endsWith =>
    obtain ⟨term, _, rest⟩ := bind_eq_ok_iff.mp made
    simp [queryPasses_of_fieldQuery? (by simp) rest]
  | expression | fuzzy =>
    obtain ⟨l, fresh, _, none⟩ := fresh_of_standard? (by decide) made
    obtain ⟨term, _, rest⟩ := bind_eq_ok_iff.mp made
    obtain ⟨r, _, rfl⟩ := Checked.map_eq_ok_iff.mp (Checked.orInvalid_eq_ok_iff.mp rest)
    cases fresh
    exact iff_of_true (PartTest.passes_worded (by simp) none) nofun
  | between =>
    obtain absurd | ⟨lower, upper, rfl, _⟩ := accepted
    · contradiction
    · obtain ⟨name, rfl⟩ := RecordKind.range_of_ofValue? made
      simp [PartTest.queryPasses, Leaf.render, PartTest.passes, PartTest.passesAll]
  | oneOf =>
    obtain ⟨items, qs, _, each, rfl⟩ := items_of_standard? made
    simp only [PartTest.queryPasses_bool_iff, List.append_nil, reduceCtorEq, false_implies,
      iff_true]
    refine ⟨PartTest.passes_null, fun p member => ?_⟩
    obtain ⟨item, _, single⟩ := (mem_of_mapM each).mp member
    exact queryPasses_of_fieldQuery? rfl single

theorem queryPasses_fragment_iff (standard : c.style = .standard) (accepted : n.Accepted)
    (made : (c.fragment n).result = .ok (some f)) : t.queryPasses f = true ↔ n.Passes t := by
  obtain ⟨field, qs, q, _, leaves, rfl, shape⟩ := fragment_eq_some made
  have joined : t.queryPasses q = true ↔ ∀ p ∈ qs, t.queryPasses p = true := by
    obtain rfl | ⟨_, rfl⟩ := shape
    · simp
    · rw [PartTest.queryPasses_bool_iff]
      exact and_iff_right PartTest.passes_null
  have unrated : q.IsUnrated := by
    obtain rfl | ⟨_, rfl⟩ := shape
    · obtain ⟨e, _, single⟩ := (mem_of_leaves? leaves).mp List.mem_cons_self
      obtain ⟨_, whole⟩ := standard?_of_entry? standard single
      exact unrated_of_standard? whole
    · exact .inr ⟨[], [], qs, rfl⟩
  rw [PartTest.queryPasses_under_iff unrated, joined, forall_made_iff standard leaves
    fun e entry present _ whole =>
      queryPasses_standard?_iff (accepted.entries e entry) present whole]
  -- A range of null makes no query, and so has no bounds that could fail either.
  have vacuous : ∀ e ∈ n.entries,
      (e.value ≠ .null → e.operation = .between → t.passes e.value = true) ↔
        (e.operation = .between → t.passes e.value = true) := by
    intro e _
    refine ⟨fun passes range => ?_, fun passes _ => passes⟩
    by_cases absent : e.value = .null
    · rw [absent]
      exact PartTest.passes_null
    · exact passes absent range
  rw [forall₂_congr vacuous]
  exact ⟨fun ⟨boost, bounds⟩ => ⟨boost, bounds⟩, fun ⟨boost, bounds⟩ => ⟨boost, bounds⟩⟩

/-- A compiled chain passes where those of its criteria do that contribute. -/
theorem queryPasses_compile_iff (standard : c.style = .standard)
    (accepted : ∀ n ∈ chain, n.Accepted)
    (compiled : (c.compile node chain).result = .ok (some q)) :
    t.queryPasses q = true ↔ ∀ n ∈ chain, n.Contributes → n.Passes t := by
  obtain ⟨fragments, rfl⟩ := compile_eq_some compiled
  rw [Clauses.toQuery_eq, PartTest.queryPasses_bool_iff]
  exact (and_iff_right PartTest.passes_null).trans (forall_clause_iff fragments fun n listed f =>
    queryPasses_fragment_iff standard (accepted n listed))

end Compiler
end SearchCriteria
