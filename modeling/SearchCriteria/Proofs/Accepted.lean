import SearchCriteria.Criteria.Document
import SearchCriteria.Proofs.Entries
import SearchCriteria.Proofs.Outcome

/-! What a criterion can hold. Every condition that is not refused, and every boost, leaves a
criterion of a certain form, whether it came through a call or in a document. -/
namespace SearchCriteria

/-- What an entry can hold: a term with wildcards is one word, a choice is a list, and a range is
a pair that is open on one side at most. Null stands for no condition under every operation. -/
def Entry.Accepted (e : Entry) : Prop :=
  match e.operation with
  | .contains | .startsWith | .endsWith => ∀ s, e.value = .text s → hasBlank s = false
  | .oneOf => e.value = .null ∨ ∃ items, e.value = .list items
  | .between => e.value = .null ∨
      ∃ lower upper, e.value = .tuple [lower, upper] ∧ ¬ (lower = .null ∧ upper = .null)
  | .equals | .expression | .fuzzy => True

/-- What a criterion can hold: such entries, and a boost that is not below zero. -/
structure Criterion.Accepted (c : Criterion) : Prop where
  entries : ∀ e ∈ c.entries, e.Accepted
  boost : c.boost.isNegative = false

theorem Entry.accepted_null (op : Operation) : Entry.Accepted ⟨op, .null⟩ := by
  cases op <;> simp [Entry.Accepted]

namespace Constraint
variable {k : Constraint} {e : Entry} {v w lower upper : Value}

theorem withoutBlank_eq_ok_iff :
    withoutBlank v = .ok w ↔ v = w ∧ ∀ s, v = .text s → hasBlank s = false := by
  cases v with
  | text s => cases blank : hasBlank s <;> simp [withoutBlank, blank]
  | _ => simp [withoutBlank]

theorem bounds_eq_ok_iff : bounds lower upper = .ok e ↔
    e = ⟨.between, .tuple [lower, upper]⟩ ∧ ¬ (lower = .null ∧ upper = .null) := by
  unfold bounds
  by_cases opened : lower = .null ∧ upper = .null
  · simp [opened, Value.isNull]
  · have closed : (lower.isNull && upper.isNull) = false := by
      rw [Bool.eq_false_iff, Ne, Bool.and_eq_true, Value.isNull_iff, Value.isNull_iff]
      exact opened
    simp [opened, closed, eq_comm]

/-- A condition that is not refused becomes an entry of the form for its operation. -/
theorem accepted_of_entry? (made : k.entry? = .ok e) : e.Accepted := by
  cases k with
  | equals v | expression v | fuzzy v =>
    cases made
    trivial
  | contains v | startsWith v | endsWith v =>
    obtain ⟨w, term, rfl⟩ := map_eq_ok_iff.mp made
    obtain ⟨rfl, word⟩ := withoutBlank_eq_ok_iff.mp term
    exact word
  | oneOf v =>
    obtain ⟨items, _, rfl⟩ := map_eq_ok_iff.mp made
    exact .inr ⟨items, rfl⟩
  | between lower upper =>
    obtain ⟨rfl, closed⟩ := bounds_eq_ok_iff.mp made
    exact .inr ⟨lower, upper, rfl, closed⟩
  | atMost v =>
    simp only [ entry?] at made
    split at made
    · contradiction
    · rename_i present
      cases made
      exact .inr ⟨.null, v, rfl, fun both => present (Value.isNull_iff.mpr both.2)⟩
  | atLeast v =>
    simp only [ entry?] at made
    split at made
    · contradiction
    · rename_i present
      cases made
      exact .inr ⟨v, .null, rfl, fun both => present (Value.isNull_iff.mpr both.1)⟩

end Constraint

namespace Binary64

theorem isNegative_of_ofRatio (num den : Nat) : (ofRatio false num den).isNegative = false := by
  unfold ofRatio ofRank
  split
  · rfl
  · split <;> rfl

/-- An integer that is not below zero is no number below zero. -/
theorem isNegative_of_ofInt? {n : Int} {x : Binary64} (bound : ¬ n < 0)
    (made : ofInt? n = some x) : x.isNegative = false := by
  have sign := isNegative_of_ofRatio n.natAbs 1
  simp only [ofInt?, bound, decide_false] at made
  split at made
  · rename_i value
    cases made
    rwa [value] at sign
  · contradiction

end Binary64

namespace Criterion
variable {c d : Criterion} {v : Value} {x : Binary64}

theorem isNegative_of_boostOf? (made : boostOf? v = .ok x) : x.isNegative = false := by
  unfold boostOf? at made
  split at made
  · split at made
    · contradiction
    · rename_i bound
      split at made
      · rename_i value
        cases made
        exact Binary64.isNegative_of_ofInt? bound value
      · contradiction
  · split at made
    · contradiction
    · rename_i y sign
      cases made
      simpa using sign
  · contradiction

theorem accepted_start (field : Value) (isOr : Bool) : (start field isOr).Accepted where
  entries := by simp [start]
  boost := rfl

theorem accepted_withEntry {e : Entry} (held : c.Accepted) (entry : e.Accepted) :
    (c.withEntry e).Accepted where
  entries := by
    simp only [withEntry, List.mem_append, List.mem_singleton]
    rintro f (member | rfl)
    · exact held.entries f member
    · exact entry
  boost := held.boost

theorem accepted_constrain? {k : Constraint} (held : c.Accepted) (made : c.constrain? k = .ok d) :
    d.Accepted := by
  obtain ⟨e, entry, rfl⟩ := map_eq_ok_iff.mp made
  exact accepted_withEntry held (Constraint.accepted_of_entry? entry)

theorem accepted_boostBy? (held : c.Accepted) (made : c.boostBy? v = .ok d) : d.Accepted := by
  obtain ⟨x, boost, rfl⟩ := map_eq_ok_iff.mp made
  exact ⟨held.entries, isNegative_of_boostOf? boost⟩

theorem accepted_addBoost? (held : c.Accepted) (made : c.addBoost? v = .ok d) : d.Accepted := by
  unfold addBoost? at made
  split at made
  · cases made
    exact held
  · exact accepted_boostBy? held made

theorem accepted_negated (held : c.Accepted) : c.negated.Accepted := ⟨held.entries, held.boost⟩

theorem accepted_alternative (held : c.Accepted) : Criterion.Accepted { c with isOr := true } :=
  ⟨held.entries, held.boost⟩

theorem accepted_addPlain? (held : c.Accepted) (made : c.addPlain? v = .ok d) : d.Accepted := by
  obtain ⟨⟨op, es⟩, _, rest⟩ := bind_eq_ok_iff.mp made
  dsimp only at rest
  split at rest
  · cases rest
    exact accepted_withEntry held (Entry.accepted_null op)
  · obtain ⟨k, _, added⟩ := bind_eq_ok_iff.mp rest
    exact accepted_constrain? held added

/-- A node of a document describes nothing that calls could not have made. -/
theorem accepted_ofPlain? (made : ofPlain? v = .ok c) : c.Accepted := by
  unfold ofPlain? at made
  split at made
  · obtain ⟨entries, _, rest⟩ := bind_eq_ok_iff.mp made
    obtain ⟨filled, folded, rest⟩ := bind_eq_ok_iff.mp rest
    obtain ⟨boosted, weighed, last⟩ := bind_eq_ok_iff.mp rest
    have first : filled.Accepted :=
      foldlM_preserves (fun held added => accepted_addPlain? held added) folded
        (accepted_start _ _)
    have second : boosted.Accepted := accepted_addBoost? first weighed
    cases last
    split
    · exact accepted_negated second
    · exact second
  · contradiction

end Criterion

theorem Chain.accepted_of_ofPlain? {v : Value} {cs : Chain} (made : Chain.ofPlain? v = .ok cs) :
    ∀ c ∈ cs, c.Accepted := by
  unfold Chain.ofPlain? at made
  split at made
  · contradiction
  · intro c member
    obtain ⟨node, _, one⟩ := (mem_of_mapM made).mp member
    exact Criterion.accepted_ofPlain? one
  · obtain ⟨c, one, rfl⟩ := map_eq_ok_iff.mp made
    simpa using Criterion.accepted_ofPlain? one

end SearchCriteria
