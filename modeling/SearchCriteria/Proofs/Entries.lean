import SearchCriteria.Value.Equality

/-! What is found in a map under a name. -/
namespace SearchCriteria

@[simp] theorem Value.alike_text (s t : String) : (Value.text s).alike (.text t) = (s == t) := by
  simp [Value.alike]

theorem Value.alike_text_iff {v : Value} {s : String} :
    v.alike (.text s) = true ↔ v = .text s := by
  cases v <;> simp [Value.alike, Value.equalInt, Value.equalFloat, Value.equalComplex]

theorem Value.isNull_iff {v : Value} : v.isNull = true ↔ v = .null := by
  cases v <;> simp [Value.isNull]

theorem Value.isNull_eq_false_iff {v : Value} : v.isNull = false ↔ v ≠ .null := by
  rw [← Bool.not_eq_true, Value.isNull_iff]

namespace Entries
variable {name other : String} {v : Value} {es fs : Entries}

/-- What a map has under a name, and null where it has nothing there. -/
abbrev under (name : String) (es : Entries) : Value := (named? name es).getD .null

@[simp] theorem named?_nil : named? name [] = none := rfl

@[simp] theorem named?_cons_text :
    named? name ((.text other, v) :: es) = if other = name then some v else named? name es := by
  simp [named?, find?]

theorem named?_append : named? name (es ++ fs) = (named? name es).or (named? name fs) := by
  induction es with
  | nil => rfl
  | cons e es ih =>
    simp only [named?, List.cons_append, find?] at ih ⊢
    split
    · rfl
    · exact ih

theorem mem_of_named? (found : named? name es = some v) : ∃ key, (key, v) ∈ es := by
  induction es with
  | nil => simp at found
  | cons e es ih =>
    simp only [named?, find?] at found ih
    split at found
    · exact ⟨e.1, by simp [← Option.some.inj found]⟩
    · obtain ⟨key, member⟩ := ih found
      exact ⟨key, List.mem_cons_of_mem e member⟩

/-- An entry that is found is found also among the entries that are kept. -/
theorem named?_filter {keep : Value × Value → Bool}
    (kept : ∀ e ∈ es, e.1.alike (.text name) = true → keep e = true) :
    named? name (es.filter keep) = named? name es := by
  induction es with
  | nil => rfl
  | cons e es ih =>
    have rest := ih fun f member => kept f (List.mem_cons_of_mem e member)
    simp only [named?] at rest ⊢
    by_cases same : e.1.alike (.text name) = true
    · simp [kept e List.mem_cons_self same, find?, same]
    · cases stays : keep e <;> simp [stays, find?, same, rest]

end Entries
end SearchCriteria
