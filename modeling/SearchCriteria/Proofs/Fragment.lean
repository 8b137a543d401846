import SearchCriteria.Compiler.Basic
import SearchCriteria.Criteria.Document
import SearchCriteria.Proofs.Accepted
import SearchCriteria.Proofs.Rendered

/-! What a single criterion is compiled into. An entry becomes one leaf, and a choice among
values one bool of leaves; the queries of several entries stand under one bool, and the boost of
the criterion is put on whatever that comes to. -/
namespace SearchCriteria

namespace Checked
variable {α β : Type}

theorem map_eq_ok_iff {f : α → β} {a : Checked α} {b : β} :
    f <$> a = Checked.ok b ↔ ∃ x, a = .ok x ∧ f x = b := by
  change Checked.map f a = .ok b ↔ _
  cases a <;> simp [Checked.map]

/-- What is true of a result, if there is one. -/
def Gives (a : Checked α) (P : α → Prop) : Prop := ∀ x, a = .ok x → P x

theorem gives_seq {f : Checked (α → β)} {a : Checked α} {P : β → Prop}
    (all : f.Gives fun g => ∀ x, P (g x)) : (f <*> a).Gives P := by
  intro b made
  change Checked.seq f a = .ok b at made
  cases f with
  | bad is => cases a <;> contradiction
  | ok g =>
    cases a with
    | bad is => contradiction
    | ok x =>
      cases made
      exact all g rfl x

theorem orInvalid_eq_ok_iff {a : Checked α} {model : String} {b : α} :
    a.orInvalid model = .ok b ↔ a = .ok b := by
  cases a <;> simp [orInvalid]

end Checked

/-- A leaf with a place for a boost and none in it: what the compiler makes of a value. -/
def Leaf.Fresh (l : Leaf) : Prop := l.boostable = true ∧ l.boost = .null

/-- The boost is the first field of a record, and null where the record does not name it. -/
theorem gives_boostField {α : Type} {f : Value → α} {es : Entries} {P : α → Prop}
    (none : Entries.named? "boost" es = none) (null : P (f .null)) :
    (f <$> boostField es).Gives P := by
  intro b made
  have unset : boostField es = .ok .null := by
    simp [boostField, Entries.withDefault, none, Checked.map, Value.ofFloat?]
  rw [unset] at made
  cases made
  exact null

/-- The kinds of record that are leaves with a place for a boost. -/
def RecordKind.boostable : RecordKind → Bool
  | .field | .text | .range | .fuzzy => true
  | .raw | .sort | .entry => false

/-- A record without a boost describes a leaf without one. -/
theorem RecordKind.fresh_of_ofValue? {k : RecordKind} {es : Entries} {q : Query}
    (kind : k.boostable = true) (none : Entries.named? "boost" es = none)
    (made : k.ofValue? (.map es) = .ok q) : ∃ l : Leaf, q = .leaf l ∧ l.Fresh := by
  have described : k.ofEntries es = .ok q := Checked.orInvalid_eq_ok_iff.mp made
  cases k with
  | raw | sort | entry => contradiction
  | field =>
    obtain ⟨r, record, rfl⟩ := Checked.map_eq_ok_iff.mp described
    have null : (FieldQuery.ofEntries es).Gives fun r => r.boost = .null := by
      iterate 3 apply Checked.gives_seq
      exact gives_boostField none fun _ _ _ => rfl
    exact ⟨_, rfl, rfl, null r record⟩
  | text =>
    obtain ⟨r, record, rfl⟩ := Checked.map_eq_ok_iff.mp described
    have null : (TextQuery.ofEntries es).Gives fun r => r.boost = .null := by
      iterate 2 apply Checked.gives_seq
      exact gives_boostField none fun _ _ => rfl
    exact ⟨_, rfl, rfl, null r record⟩
  | range =>
    obtain ⟨r, record, rfl⟩ := Checked.map_eq_ok_iff.mp described
    have null : (RangeQuery.ofEntries es).Gives fun r => r.boost = .null := by
      iterate 5 apply Checked.gives_seq
      exact gives_boostField none fun _ _ _ _ _ => rfl
    exact ⟨_, rfl, rfl, null r record⟩
  | fuzzy =>
    obtain ⟨r, record, rfl⟩ := Checked.map_eq_ok_iff.mp described
    have null : (FuzzyQuery.ofEntries es).Gives fun r => r.boost = .null := by
      iterate 2 apply Checked.gives_seq
      exact gives_boostField none fun _ _ => rfl
    exact ⟨_, rfl, rfl, null r record⟩

/-- Whether a criterion asks for anything. -/
def Criterion.Contributes (n : Criterion) : Prop := ∃ e ∈ n.entries, e.value ≠ .null

namespace Compiler
variable {c : Compiler} {op : Operation} {v field : Value} {q : Query}

theorem fresh_of_fieldQuery? {flag : Entries} (none : Entries.named? "boost" flag = none)
    (made : fieldQuery? field v flag = .ok q) : ∃ l : Leaf, q = .leaf l ∧ l.Fresh := by
  refine RecordKind.fresh_of_ofValue? rfl ?_ made
  simp [none]

/-- An operation other than the choice among values makes a single leaf. -/
theorem fresh_of_standard? (single : op ≠ .oneOf) (made : c.standard? op v field = .ok q) :
    ∃ l : Leaf, q = .leaf l ∧ l.Fresh := by
  cases op with
  | oneOf => contradiction
  | equals => exact fresh_of_fieldQuery? rfl made
  | contains | startsWith | endsWith =>
    obtain ⟨s, _, term⟩ := bind_eq_ok_iff.mp made
    exact fresh_of_fieldQuery? (by simp) term
  | expression | fuzzy =>
    obtain ⟨s, _, term⟩ := bind_eq_ok_iff.mp made
    exact RecordKind.fresh_of_ofValue? rfl (by simp) term
  | between =>
    obtain ⟨lower, _, rest⟩ := bind_eq_ok_iff.mp made
    obtain ⟨upper, _, range⟩ := bind_eq_ok_iff.mp rest
    exact RecordKind.fresh_of_ofValue? rfl (by simp) range

/-- A choice among values makes a leaf of each of them. -/
theorem items_of_standard? (made : c.standard? .oneOf v field = .ok q) : ∃ items qs,
    v.items? = .ok items ∧ (items.mapM fun item => fieldQuery? field item []) = .ok qs ∧
      q = .bool .null qs [] [] := by
  obtain ⟨items, listed, rest⟩ := bind_eq_ok_iff.mp made
  obtain ⟨qs, each, last⟩ := bind_eq_ok_iff.mp rest
  exact ⟨items, qs, listed, each, (Except.ok.inj last).symm⟩

theorem entry?_of_isNull (null : v.isNull = true) : c.entry? op v field = .ok none := by
  simp [ entry?, null]

/-- Only null asks for nothing. -/
theorem entry?_eq_none_iff : c.entry? op v field = .ok none ↔ v.isNull = true := by
  constructor
  · intro made
    by_contra present
    simp only [ entry?, present, if_false] at made
    split at made
    all_goals
      obtain ⟨q, _, absurd⟩ := map_eq_ok_iff.mp made
      exact Option.some_ne_none q absurd
  · exact entry?_of_isNull

theorem present_of_entry? (made : c.entry? op v field = .ok (some q)) : v ≠ .null := by
  intro null
  rw [ entry?_of_isNull (Value.isNull_iff.mpr null)] at made
  cases made

theorem exists_of_entry? {r : Option Query} (present : v ≠ .null)
    (made : c.entry? op v field = .ok r) : ∃ q, r = some q := by
  rw [← Option.ne_none_iff_exists']
  rintro rfl
  exact present (Value.isNull_iff.mp (entry?_eq_none_iff.mp made))

theorem standard?_of_entry? (standard : c.style = .standard)
    (made : c.entry? op v field = .ok (some q)) : v ≠ .null ∧ c.standard? op v field = .ok q := by
  have present := present_of_entry? made
  simp only [ entry?, Value.isNull_eq_false_iff.mpr present, standard, Bool.false_eq_true,
    if_false] at made
  obtain ⟨p, whole, same⟩ := map_eq_ok_iff.mp made
  cases same
  exact ⟨present, whole⟩

theorem leaves?_cons_eq_ok_iff {e : Entry} {es : List Entry} {qs : List Query} :
    c.leaves? field (e :: es) = .ok qs ↔ ∃ r, c.entry? e.operation e.value field = .ok r ∧
      ∃ rest, c.leaves? field es = .ok rest ∧ qs = r.toList ++ rest := by
  simp only [leaves?, bind_eq_ok_iff]
  constructor
  · rintro ⟨r, first, rest, others, last⟩
    exact ⟨r, first, rest, others, (Except.ok.inj last).symm⟩
  · rintro ⟨r, first, rest, others, rfl⟩
    exact ⟨r, first, rest, others, rfl⟩

theorem length_of_leaves? {es : List Entry} {qs : List Query} (made : c.leaves? field es = .ok qs) :
    qs.length ≤ es.length := by
  induction es generalizing qs with
  | nil =>
    cases made
    exact Nat.le_refl _
  | cons e es ih =>
    obtain ⟨r, _, rest, others, rfl⟩ := leaves?_cons_eq_ok_iff.mp made
    have bound := ih others
    have single : r.toList.length ≤ 1 := Option.length_toList_le
    simp only [List.length_append, List.length_cons]
    omega

theorem entry?_of_leaves? {es : List Entry} {qs : List Query} (made : c.leaves? field es = .ok qs) :
    ∀ e ∈ es, ∃ r, c.entry? e.operation e.value field = .ok r := by
  induction es generalizing qs with
  | nil => simp
  | cons e es ih =>
    obtain ⟨r, first, rest, others, _⟩ := leaves?_cons_eq_ok_iff.mp made
    simpa only [List.forall_mem_cons] using And.intro ⟨r, first⟩ (ih others)

theorem exists_leaves?_iff {field : Value} {es : List Entry} :
    (∃ qs, c.leaves? field es = .ok qs) ↔
      ∀ x ∈ es, ∃ r, c.entry? x.operation x.value field = .ok r := by
  constructor
  · rintro ⟨qs, made⟩
    exact entry?_of_leaves? made
  · intro all
    induction es with
    | nil => exact ⟨[], rfl⟩
    | cons x es ih =>
      rw [List.forall_mem_cons] at all
      obtain ⟨r, first⟩ := all.1
      obtain ⟨rest, others⟩ := ih all.2
      exact ⟨r.toList ++ rest, leaves?_cons_eq_ok_iff.mpr ⟨r, first, rest, others, rfl⟩⟩

/-- The leaves of a criterion are the queries of its entries. -/
theorem mem_of_leaves? {es : List Entry} {qs : List Query} (made : c.leaves? field es = .ok qs) :
    q ∈ qs ↔ ∃ e ∈ es, c.entry? e.operation e.value field = .ok (some q) := by
  induction es generalizing qs with
  | nil =>
    cases made
    simp
  | cons e es ih =>
    obtain ⟨r, first, rest, others, rfl⟩ := leaves?_cons_eq_ok_iff.mp made
    simp only [List.mem_append, Option.mem_toList, ih others, List.exists_mem_cons_iff, first,
      Except.ok.injEq]

end Compiler

/-- Queries that have to match together: one by itself, and more under a bool. -/
def Query.joined (alone : Bool) (qs : List Query) : Option Query :=
  if qs.isEmpty then none
  else if alone then qs.head?
  else some (.bool .null [] [] qs)

/-- A query under the boost of a criterion, where one is set and the query has a place for it. -/
def Query.under (q : Query) (boost : Binary64) : Query :=
  if boost.isNaN then q else (q.withBoost? (.float boost)).getD q

theorem Query.render?_under (q : Query) (boost : Binary64) :
    (q.under boost).render?.map Value.withoutBoost = q.render?.map Value.withoutBoost := by
  unfold Query.under
  split
  · rfl
  · cases rated : q.withBoost? (.float boost) with
    | none => rfl
    | some p => exact render?_withBoost? rated

theorem Query.renders_under {q : Query} {boost : Binary64} :
    (q.under boost).Renders ↔ q.Renders := by
  have same := q.render?_under boost
  constructor
  · rintro ⟨v, rendered⟩
    rw [rendered] at same
    obtain ⟨w, other, _⟩ := map_eq_ok_iff.mp same.symm
    exact ⟨w, other⟩
  · rintro ⟨v, rendered⟩
    rw [rendered] at same
    obtain ⟨w, other, _⟩ := map_eq_ok_iff.mp same
    exact ⟨w, other⟩

namespace Compiler
variable {c : Compiler} {n : Criterion}

theorem boosted_result (q : Query) (boost : Binary64) :
    (boosted q boost).result = .ok (q.under boost) := by
  unfold boosted Query.under
  split
  · rfl
  · cases q.withBoost? (.float boost) <;> rfl

theorem unboosted?_eq (said : n.entries ≠ []) :
    c.unboosted? n = do
      let field ← c.resolveField? n.field
      let qs ← c.leaves? field n.entries
      return Query.joined (n.entries.length == 1) qs := by
  unfold unboosted?
  split
  · contradiction
  · rename_i e single
    rw [single]
    refine bind_congr fun field => ?_
    cases made : c.entry? e.operation e.value field with
    | error f => simp [leaves?, made]
    | ok r => cases r <;> simp [leaves?, made, Query.joined, pure, Except.pure]
  · rename_i es _ several
    refine bind_congr fun field => bind_congr fun qs => ?_
    have length : (n.entries.length == 1) = false := by
      rw [beq_eq_false_iff_ne]
      intro one
      obtain ⟨e, single⟩ := List.length_eq_one_iff.mp one
      exact several e single
    cases qs <;> simp [Query.joined, length]

/-- The boost is put on what a criterion comes to without it. -/
theorem fragment_result :
    (c.fragment n).result = (c.unboosted? n).map (Option.map (·.under n.boost)) := by
  simp only [fragment, Traced.result_bind]
  cases made : c.unboosted? n with
  | error e => rfl
  | ok r =>
    cases r with
    | none => rfl
    | some q => simp [boosted_result, Except.map]

/-- What a criterion is compiled into: nothing where it has no entries, and otherwise the
queries of its entries on the field that its property resolves to, together and under its
boost. -/
theorem fragment_eq_ok_iff {r : Option Query} :
    (c.fragment n).result = .ok r ↔ (n.entries = [] ∧ r = none) ∨
      n.entries ≠ [] ∧ ∃ field qs, c.resolveField? n.field = .ok field ∧
        c.leaves? field n.entries = .ok qs ∧
        r = (Query.joined (n.entries.length == 1) qs).map (·.under n.boost) := by
  rw [fragment_result, map_eq_ok_iff]
  by_cases said : n.entries = []
  · simp [said, unboosted?, eq_comm]
  · simp only [said, unboosted?_eq said, bind_eq_ok_iff, false_and, ne_eq, not_false_eq_true,
      true_and, false_or]
    constructor
    · rintro ⟨_, ⟨field, resolved, qs, made, last⟩, rfl⟩
      cases last
      exact ⟨field, qs, resolved, made, rfl⟩
    · rintro ⟨field, qs, resolved, made, rfl⟩
      exact ⟨_, ⟨field, resolved, qs, made, rfl⟩, rfl⟩

/-- A criterion has a fragment when it asks for something. -/
theorem contributes_iff_of_leaves? {field : Value} {qs : List Query}
    (made : c.leaves? field n.entries = .ok qs) : n.Contributes ↔ qs ≠ [] := by
  constructor
  · rintro ⟨e, member, present⟩ empty
    obtain ⟨r, single⟩ := entry?_of_leaves? made e member
    obtain ⟨q, rfl⟩ := exists_of_entry? present single
    exact List.not_mem_nil (empty ▸ (mem_of_leaves? made).mpr ⟨e, member, single⟩)
  · intro full
    obtain ⟨q, member⟩ := List.exists_mem_of_ne_nil qs full
    obtain ⟨e, entry, single⟩ := (mem_of_leaves? made).mp member
    exact ⟨e, entry, present_of_entry? single⟩

theorem fragment_eq_none_iff {r : Option Query} (made : (c.fragment n).result = .ok r) :
    r = none ↔ ¬ n.Contributes := by
  obtain ⟨silent, rfl⟩ | ⟨_, field, qs, _, leaves, rfl⟩ := fragment_eq_ok_iff.mp made
  · simp [Criterion.Contributes, silent]
  · rw [contributes_iff_of_leaves? leaves, not_not]
    cases qs with
    | nil => simp [Query.joined]
    | cons q qs => cases n.entries.length == 1 <;> simp [Query.joined]

theorem contributes_iff_of_fragment {r : Option Query} (made : (c.fragment n).result = .ok r) :
    n.Contributes ↔ ∃ f, r = some f := by
  rw [← Option.ne_none_iff_exists', Ne, not_congr (fragment_eq_none_iff made), not_not]

/-- A fragment is the query of an only entry, or all that the entries come to under a bool. -/
theorem fragment_eq_some {f : Query} (made : (c.fragment n).result = .ok (some f)) :
    ∃ field qs q, c.resolveField? n.field = .ok field ∧ c.leaves? field n.entries = .ok qs ∧
      f = q.under n.boost ∧ (qs = [q] ∨ qs ≠ [] ∧ q = .bool .null [] [] qs) := by
  obtain ⟨_, absurd⟩ | ⟨_, field, qs, resolved, leaves, whole⟩ := fragment_eq_ok_iff.mp made
  · contradiction
  · obtain ⟨q, joined, rfl⟩ := Option.map_eq_some_iff.mp whole.symm
    refine ⟨field, qs, q, resolved, leaves, rfl, ?_⟩
    have bound := length_of_leaves? leaves
    cases qs with
    | nil => simp [Query.joined] at joined
    | cons p ps =>
      by_cases alone : n.entries.length = 1
      · have rest : ps = [] := by
          apply List.eq_nil_of_length_eq_zero
          simp only [List.length_cons] at bound
          omega
        simp only [Query.joined, alone, beq_self_eq_true, rest] at joined
        exact .inl (by simpa [rest] using joined)
      · have several : (n.entries.length == 1) = false := by simpa using alone
        simp only [Query.joined, several] at joined
        exact .inr ⟨List.cons_ne_nil _ _, by simpa using joined.symm⟩

/-- A criterion that asks for something has a fragment when each of its entries has a query, or asks
for nothing. -/
theorem exists_fragment_iff {field : Value} (contributes : n.Contributes)
    (resolved : c.resolveField? n.field = .ok field) :
    (∃ f, (c.fragment n).result = .ok (some f)) ↔
      ∀ x ∈ n.entries, ∃ r, c.entry? x.operation x.value field = .ok r := by
  rw [← exists_leaves?_iff]
  constructor
  · rintro ⟨f, made⟩
    obtain ⟨other, qs, _, same, leaves, _⟩ := fragment_eq_some made
    cases resolved.symm.trans same
    exact ⟨qs, leaves⟩
  · rintro ⟨qs, leaves⟩
    have said : n.entries ≠ [] := by
      obtain ⟨x, member, _⟩ := contributes
      exact List.ne_nil_of_mem member
    have made := fragment_eq_ok_iff.mpr (.inr ⟨said, field, qs, resolved, leaves, rfl⟩)
    obtain ⟨f, same⟩ := (contributes_iff_of_fragment made).mp contributes
    exact ⟨f, made.trans (congrArg _ same)⟩

/-- What is true of the queries of entries is true of the fragment, if joining queries and putting
the boost on them keeps it. -/
theorem fragment_invariant {P : Query → Prop} {f : Query}
    (joined : ∀ qs, (∀ q ∈ qs, P q) → P (.bool .null [] [] qs))
    (weighed : ∀ q, P q → P (q.under n.boost))
    (entries : ∀ e ∈ n.entries, ∀ field, c.resolveField? n.field = .ok field →
      ∀ q, c.entry? e.operation e.value field = .ok (some q) → P q)
    (made : (c.fragment n).result = .ok (some f)) : P f := by
  obtain ⟨field, qs, q, resolved, leaves, rfl, shape⟩ := fragment_eq_some made
  have each : ∀ p ∈ qs, P p := by
    intro p member
    obtain ⟨e, entry, first⟩ := (mem_of_leaves? leaves).mp member
    exact entries e entry field resolved p first
  refine weighed q ?_
  obtain rfl | ⟨_, rfl⟩ := shape
  · exact each q List.mem_cons_self
  · exact joined qs each

end Compiler
end SearchCriteria
