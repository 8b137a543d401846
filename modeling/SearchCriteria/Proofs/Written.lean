import SearchCriteria.Proofs.Entries
import SearchCriteria.Proofs.Outcome

/-! What can be written out. A value can exactly when its parts can, and a refusal that quotes
a value which cannot is another refusal. -/
namespace SearchCriteria

namespace Value
variable {items : List Value} {es : Entries} {v : Value} {name : String}

theorem areWritable_iff : areWritable items = true ↔ ∀ v ∈ items, v.isWritable = true := by
  induction items with
  | nil => simp [areWritable]
  | cons v items ih => simp [areWritable, ih]

theorem entriesWritable_iff : entriesWritable es = true ↔
    ∀ e ∈ es, e.1.isWritable = true ∧ e.2.isWritable = true := by
  induction es with
  | nil => simp [entriesWritable]
  | cons e es ih => simp [entriesWritable, ih]

theorem isWritable_item (whole : (Value.list items).isWritable = true) (member : v ∈ items) :
    v.isWritable = true := by
  rw [isWritable] at whole
  exact areWritable_iff.mp whole v member

theorem isWritable_under (whole : (Value.map es).isWritable = true) :
    (Entries.under name es).isWritable = true := by
  rw [isWritable] at whole
  unfold Entries.under
  cases found : Entries.named? name es with
  | none => rfl
  | some v =>
    obtain ⟨key, member⟩ := Entries.mem_of_named? found
    exact (entriesWritable_iff.mp whole _ member).2

theorem written?_eq_error_iff {f : Failure} :
    v.written? = .error f ↔ v.isWritable = false ∧ f = .tooManyDigits := by
  unfold written?
  cases v.isWritable <;> simp [eq_comm]

end Value

/-- A complaint about what is to be built of a value. What it would quote may be too long to be
written out, and that is the complaint then. -/
def Failure.Worded (v : Value) (f : Failure) : Prop :=
  (∃ fault, f = .criteria fault) ∨ f = .tooManyDigits ∧ v.isWritable = false

namespace Failure
variable {v w : Value} {f : Failure} {fault : CriteriaFault}

theorem worded_criteria : Worded v (.criteria fault) := .inl ⟨fault, rfl⟩

theorem worded_quoting : Worded v (.quoting v (.criteria fault)) := by
  unfold quoting
  cases writable : v.isWritable with
  | true => exact worded_criteria
  | false => exact .inr ⟨rfl, writable⟩

/-- A complaint about a part of a value is one about the value. -/
theorem Worded.whole (part : v.isWritable = true → w.isWritable = true) (worded : Worded w f) :
    Worded v f := by
  obtain criteria | ⟨same, unwritable⟩ := worded
  · exact .inl criteria
  · refine .inr ⟨same, ?_⟩
    rw [Bool.eq_false_iff]
    intro writable
    rw [part writable] at unwritable
    contradiction

end Failure
end SearchCriteria
