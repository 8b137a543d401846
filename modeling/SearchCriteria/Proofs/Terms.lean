import SearchCriteria.Proofs.Leaves
import SearchCriteria.Proofs.Meaning
import SearchCriteria.Proofs.Orderly

/-! Terms: the leaves of a query that search a field for a value. Each is made of a value in an
entry, and stands where the entry does in a compiled chain, be it under a boost or not. -/
namespace SearchCriteria

/-- The term with wildcards that an operation makes of a text. -/
def Operation.pattern? : Operation → String → Option String
  | .contains, t => some ("*" ++ t ++ "*")
  | .startsWith, t => some (t ++ "*")
  | .endsWith, t => some ("*" ++ t)
  | .equals, _ | .expression, _ | .between, _ | .fuzzy, _ | .oneOf, _ => none

theorem Value.plain_of_written? {v : Value} {t : String} (written : v.written? = .ok t) :
    v.plain = t := by
  unfold written? at written
  split at written
  · exact Except.ok.inj written
  · contradiction

namespace Compiler
variable {c : Compiler} {field v : Value} {flag : Entries} {q : Query} {term : String}

/-- A term holds the value that it is made of, with a flag for wildcards or none. -/
theorem field_of_fieldQuery? (none : Entries.named? "boost" flag = none)
    (made : fieldQuery? field v flag = .ok q) : ∃ name mark,
      q = .leaf (.field ⟨.null, name, v, mark⟩) ∧ (mark = .null ∨ ∃ b, mark = .bool b) := by
  obtain ⟨r, record, rfl⟩ := Checked.map_eq_ok_iff.mp (Checked.orInvalid_eq_ok_iff.mp made)
  obtain ⟨g, mark, first, marked, rfl⟩ := Checked.seq_eq_ok_iff.mp record
  obtain ⟨h, value, second, given, rfl⟩ := Checked.seq_eq_ok_iff.mp first
  obtain ⟨k, name, third, _, rfl⟩ := Checked.seq_eq_ok_iff.mp second
  obtain ⟨boost, unset, rfl⟩ := Checked.map_eq_ok_iff.mp third
  have fresh : boost = .null := by
    simpa [boostField, Entries.withDefault, none, Checked.map, Value.ofFloat?, eq_comm] using unset
  have same : value = v := by
    simpa [Entries.required, Rule.any, Checked.within, eq_comm] using given
  obtain ⟨b, _, rfl⟩ := Checked.map_eq_ok_iff.mp marked
  refine ⟨name, Value.ofBool? b, by rw [fresh, same], ?_⟩
  cases b with
  | none => exact .inl rfl
  | some b => exact .inr ⟨b, rfl⟩

/-- A term with wildcards holds the text of its value between them. -/
theorem field_of_pattern {op : Operation} (pattern : op.pattern? v.plain = some term)
    (made : c.standard? op v field = .ok q) :
    ∃ name mark, q = .leaf (.field ⟨.null, name, .text term, mark⟩) := by
  cases op with
  | contains | startsWith | endsWith =>
    obtain ⟨t, written, rest⟩ := bind_eq_ok_iff.mp made
    obtain ⟨name, mark, rfl, _⟩ := field_of_fieldQuery? (by simp) rest
    rw [← Value.plain_of_written? written]
    cases pattern
    exact ⟨name, mark, rfl⟩
  | equals | expression | between | fuzzy | oneOf => contradiction

section Leaves
variable {node n : Criterion} {chain : Chain} {e : Entry} {w : Value}

/-- What is true of the queries of all entries is true of what the entries ask for. -/
theorem forall_made_iff {es : List Entry} {qs : List Query} {P : Query → Prop} {H : Entry → Prop}
    (standard : c.style = .standard) (leaves : c.leaves? field es = .ok qs)
    (same : ∀ e ∈ es, e.value ≠ .null → ∀ p, c.standard? e.operation e.value field = .ok p →
      (P p ↔ H e)) : (∀ p ∈ qs, P p) ↔ ∀ e ∈ es, e.value ≠ .null → H e := by
  constructor
  · intro all e entry present
    obtain ⟨r, single⟩ := entry?_of_leaves? leaves e entry
    obtain ⟨p, rfl⟩ := exists_of_entry? present single
    obtain ⟨_, whole⟩ := standard?_of_entry? standard single
    exact (same e entry present p whole).mp (all p ((mem_of_leaves? leaves).mpr ⟨e, entry, single⟩))
  · intro all p member
    obtain ⟨e, entry, single⟩ := (mem_of_leaves? leaves).mp member
    obtain ⟨present, whole⟩ := standard?_of_entry? standard single
    exact (same e entry present p whole).mpr (all e entry present)

theorem exists_made_iff {es : List Entry} {qs : List Query} {P : Query → Prop} {H : Entry → Prop}
    (standard : c.style = .standard) (leaves : c.leaves? field es = .ok qs)
    (same : ∀ e ∈ es, e.value ≠ .null → ∀ p, c.standard? e.operation e.value field = .ok p →
      (P p ↔ H e)) : (∃ p ∈ qs, P p) ↔ ∃ e ∈ es, e.value ≠ .null ∧ H e := by
  have other := not_congr (forall_made_iff standard leaves fun e entry present p made =>
    not_congr (same e entry present p made))
  simpa only [not_forall, not_not, exists_prop] using other

theorem leaves?_of_compile (standard : c.style = .standard)
    (compiled : (c.compile node chain).result = .ok (some q)) :
    q.leaves? = c.chainLeaves? chain := by
  obtain ⟨fragments, rfl⟩ := compile_eq_some compiled
  rw [Clauses.toQuery_eq, Query.leaves?_bool]
  exact leaves_of_routed standard fragments

/-- Where a chain is compiled, so is each entry that asks for something. -/
theorem standard?_of_compile (standard : c.style = .standard)
    (compiled : (c.compile node chain).result = .ok (some q)) (listed : n ∈ chain)
    (entry : e ∈ n.entries) (present : e.value ≠ .null) :
    ∃ field p, c.resolveField? n.field = .ok field ∧
      c.entry? e.operation e.value field = .ok (some p) ∧
      c.standard? e.operation e.value field = .ok p := by
  obtain ⟨fragments, _⟩ := compile_eq_some compiled
  obtain ⟨silent, _⟩ | ⟨_, field, qs, resolved, leaves, _⟩ :=
    fragment_eq_ok_iff.mp (fragments n listed)
  · exact (List.ne_nil_of_mem entry silent).elim
  · obtain ⟨r, made⟩ := entry?_of_leaves? leaves e entry
    obtain ⟨p, rfl⟩ := exists_of_entry? present made
    obtain ⟨_, whole⟩ := standard?_of_entry? standard made
    exact ⟨field, p, resolved, made, whole⟩

theorem entryLeaves?_of_rendered (standard : c.style = .standard) (single : e.operation ≠ .oneOf)
    (resolved : c.resolveField? n.field = .ok field) (shown : c.rendered? n e = .ok (some w)) :
    c.entryLeaves? field e = .ok [w] := by
  obtain ⟨p, made, rendered⟩ := (rendered?_eq_some_iff resolved).mp shown
  obtain ⟨present, whole⟩ := standard?_of_entry? standard made
  rw [entryLeaves?, Value.isNull_eq_false_iff.mpr present, if_neg Bool.false_ne_true]
  split
  · contradiction
  · rw [whole, ok_bind, rendered, ok_bind]
    rfl

/-- What an entry of a chain is rendered as is a leaf of what the chain is rendered as. -/
theorem mem_leaves_of_entry (standard : c.style = .standard)
    (compiled : (c.compile node chain).result = .ok (some q)) (rendered : q.render? = .ok v)
    (listed : n ∈ chain) (entry : e ∈ n.entries) (single : e.operation ≠ .oneOf)
    (shown : c.rendered? n e = .ok (some w)) : w ∈ v.leaves := by
  have all : c.chainLeaves? chain = .ok v.leaves := by
    rw [← leaves?_of_compile standard compiled, Query.leaves?, rendered]
    rfl
  obtain ⟨field, resolved, _⟩ := bind_eq_ok_iff.mp shown
  have mine := entryLeaves?_of_rendered standard single resolved shown
  have placed : n ∈ (chain.filter fun n => n.isOr) ++
      (chain.filter fun n => !n.isOr && n.negating) ++
      (chain.filter fun n => !n.isOr && !n.negating) := by
    cases alternative : n.isOr <;> cases negated : n.negating <;> simp [listed, alternative, negated]
  obtain ⟨zs, own⟩ := exists_of_flatMapM all n placed
  have said : n.entries.isEmpty = false := by simpa using List.ne_nil_of_mem entry
  have parts : n.entries.flatMapM (c.entryLeaves? field) = .ok zs := by
    rw [criterionLeaves?, said, if_neg Bool.false_ne_true, resolved, ok_bind] at own
    exact own
  have inner := (mem_of_flatMapM parts).mpr ⟨e, entry, [w], mine, List.mem_cons_self⟩
  exact (mem_of_flatMapM all).mpr ⟨n, placed, zs, own, inner⟩

end Leaves

end Compiler
end SearchCriteria
