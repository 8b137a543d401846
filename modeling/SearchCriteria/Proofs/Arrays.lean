import Mathlib.Logic.Basic

/-! Arrays as stores of numbered things, which are read with a default where there is none. -/
namespace SearchCriteria
variable {α : Type} {xs : Array α} {x d : α} {f : α → α} {i k : Nat}

theorem getD_push : (xs.push x).getD i d = if i = xs.size then x else xs.getD i d := by
  by_cases new : i = xs.size <;>
    simp [Array.getD_eq_getD_getElem?, Array.getElem?_push, new]

theorem getD_modify (known : i = k → k < xs.size) :
    (xs.modify k f).getD i d = if i = k then f (xs.getD i d) else xs.getD i d := by
  by_cases same : i = k
  · subst same
    have found : xs[i]? = some xs[i] := Array.getElem?_eq_getElem (known rfl)
    simp [Array.getD_eq_getD_getElem?, Array.getElem?_modify, found]
  · have other : k ≠ i := fun h => same h.symm
    simp [Array.getD_eq_getD_getElem?, Array.getElem?_modify, same, other]

theorem getD_set (known : k < xs.size) :
    (xs.setIfInBounds k x).getD i d = if i = k then x else xs.getD i d := by
  by_cases same : i = k
  · simp [Array.getD_eq_getD_getElem?, same, known]
  · have other : k ≠ i := fun h => same h.symm
    simp [Array.getD_eq_getD_getElem?, same, other]

theorem getD_of_size_le (outside : xs.size ≤ i) : xs.getD i d = d := by
  simp [Array.getD_eq_getD_getElem?, Array.getElem?_eq_none outside]

end SearchCriteria
