import SearchCriteria.Proofs.Arrays
import SearchCriteria.Proofs.Rendered
import SearchCriteria.Proofs.Routing
import SearchCriteria.Query.Heap

/-! What a copy with another boost shares with the query that it was made of. Both refer to the same
lists of clauses, and no call makes a query refer to other lists, so what is added to one of the two
is in the other as well, however much later it is. -/
namespace SearchCriteria

namespace Cell
variable {c d : Cell} {b : Value} {slot other : Slot} {s : SlotId}

/-- Whether an object refers to lists of clauses. -/
def hasClauses : Cell → Bool
  | .bool .. => true
  | _ => false

theorem slot?_of_withBoost? (copy : c.withBoost? b = some d) : d.slot? slot = c.slot? slot := by
  cases c with
  | leaf q =>
    obtain ⟨p, _, rfl⟩ := Option.map_eq_some_iff.mp copy
    rfl
  | bool b s n m =>
    cases copy
    rfl
  | foreign x => contradiction

theorem hasClauses_of_withBoost? (copy : c.withBoost? b = some d) :
    d.hasClauses = c.hasClauses := by
  cases c with
  | leaf q =>
    obtain ⟨p, _, rfl⟩ := Option.map_eq_some_iff.mp copy
    rfl
  | bool b s n m =>
    cases copy
    rfl
  | foreign x => contradiction

theorem exists_slot? (full : c.hasClauses = true) (slot : Slot) : ∃ s, c.slot? slot = some s := by
  cases c with
  | leaf | foreign => contradiction
  | bool => cases slot <;> exact ⟨_, rfl⟩

theorem slot?_eq_none (bare : c.hasClauses = false) (slot : Slot) : c.slot? slot = none := by
  cases c with
  | leaf | foreign => rfl
  | bool => contradiction

/-- The lists that an object refers to are there, and no two of its slots have the same one. -/
structure Placed (c : Cell) (size : Nat) : Prop where
  there (slot : Slot) (s : SlotId) : c.slot? slot = some s → s < size
  apart (slot other : Slot) (s : SlotId) :
    c.slot? slot = some s → c.slot? other = some s → slot = other

namespace Placed
variable {size : Nat}

theorem mono (placed : c.Placed size) {more : Nat} (grown : size ≤ more) : c.Placed more where
  there slot s found := Nat.lt_of_lt_of_le (placed.there slot s found) grown
  apart := placed.apart

theorem of_bare (bare : c.hasClauses = false) : c.Placed size where
  there slot s found := by simp [slot?_eq_none bare] at found
  apart slot _ s found := by simp [slot?_eq_none bare] at found

theorem of_withBoost? (placed : c.Placed size) (copy : c.withBoost? b = some d) :
    d.Placed size where
  there slot s := by
    rw [slot?_of_withBoost? copy]
    exact placed.there slot s
  apart slot other s := by
    rw [slot?_of_withBoost? copy, slot?_of_withBoost? copy]
    exact placed.apart slot other s

theorem of_new : (bool b size (size + 1) (size + 2)).Placed (size + 3) where
  there slot s found := by
    cases slot <;> cases found <;> simp
  apart slot other s found again := by
    cases slot <;> cases found <;> cases other <;> simp [slot?] at again ⊢

end Placed

end Cell

namespace Heap
variable {h g : Heap} {i j k s t : Nat} {c : Cell} {call : Call} {b : Value} {slot : Slot}

section Change

theorem cell_add : (h.add c).2.cell k = if k = h.cells.size then c else h.cell k := getD_push

@[simp] theorem clauses_add : (h.add c).2.clauses s = h.clauses s := rfl

@[simp] theorem size_add : (h.add c).2.cells.size = h.cells.size + 1 := by simp [add]

theorem cell_addBool {should mustNot must : List QueryId} :
    (h.addBool b should mustNot must).2.cell k = if k = h.cells.size then
      .bool b h.slots.size (h.slots.size + 1) (h.slots.size + 2) else h.cell k := getD_push

@[simp] theorem size_addBool {should mustNot must : List QueryId} :
    (h.addBool b should mustNot must).2.cells.size = h.cells.size + 1 := by simp [addBool]

theorem clauses_addBool {should mustNot must : List QueryId} :
    (h.addBool b should mustNot must).2.clauses s = if s = h.slots.size + 2 then must
      else if s = h.slots.size + 1 then mustNot
      else if s = h.slots.size then should
      else h.clauses s := by
  simp only [addBool, clauses, getD_push, Array.size_push]

/-- The objects with one more clause at the end of a list. -/
def extend (h : Heap) (s : SlotId) (k : QueryId) : Heap :=
  { h with slots := h.slots.modify s (· ++ [k]) }

@[simp] theorem cell_extend : (h.extend s j).cell k = h.cell k := rfl

@[simp] theorem slots_extend : (h.extend s j).slots.size = h.slots.size := by simp [extend]

theorem clauses_extend (there : s < h.slots.size) :
    (h.extend s k).clauses t = if t = s then h.clauses t ++ [k] else h.clauses t :=
  getD_modify fun _ => there

end Change

/-- What a call can do to the objects: nothing where it is refused, one more object without lists or
with those of another one, a query with lists of its own, or one more clause in a list. -/
theorem after_cases (h : Heap) (call : Call) :
    h.after call = h ∨
    (∃ d, (d.hasClauses = false ∨ ∃ i b, (h.cell i).withBoost? b = some d) ∧
      h.after call = (h.add d).2) ∨
    (∃ b should mustNot must, call = .bool b should mustNot must ∧
      h.after call = (h.addBool b should mustNot must).2) ∨
    ∃ slot i k s, call = .addClause slot i k ∧ (h.cell i).slot? slot = some s ∧
      h.after call = h.extend s k := by
  cases call with
  | leaf q => exact .inr (.inl ⟨_, .inl rfl, rfl⟩)
  | bool b should mustNot must => exact .inr (.inr (.inl ⟨_, _, _, _, rfl, rfl⟩))
  | withBoost i b =>
    cases copy : (h.cell i).withBoost? b with
    | none => exact .inl (by simp [after, call, withBoost, copy])
    | some d => exact .inr (.inl ⟨d, .inr ⟨i, b, copy⟩, by simp [after, call, withBoost, copy]⟩)
  | addClause slot i k =>
    cases list : (h.cell i).slot? slot with
    | none => exact .inl (by simp [after, call, addClause, list])
    | some s =>
      refine .inr (.inr (.inr ⟨slot, i, k, s, rfl, list, ?_⟩))
      simp [after, call, addClause, list, extend]

/-- No call changes an object that there is; queries with clauses change with their lists. -/
theorem cell_after (there : k < h.cells.size) :
    h.cells.size ≤ (h.after call).cells.size ∧ (h.after call).cell k = h.cell k := by
  have old : k ≠ h.cells.size := Nat.ne_of_lt there
  obtain same | ⟨d, _, same⟩ | ⟨b, _, _, _, _, same⟩ | ⟨_, _, _, _, _, _, same⟩ :=
    after_cases h call
  · simp [same]
  · simp [same, cell_add, old]
  · simp [same, cell_addBool, old]
  · simp [same, extend, cell]

theorem cell_run (there : k < h.cells.size) (calls : List Call) :
    (h.run calls).cell k = h.cell k := by
  induction calls generalizing h with
  | nil => rfl
  | cons call calls ih =>
    obtain ⟨grown, same⟩ : _ ∧ (h.after call).cell k = h.cell k := cell_after there
    exact (ih (Nat.lt_of_lt_of_le there grown)).trans same

/-- A query and a copy of it with another boost are the same but for the boost, at any depth. -/
theorem view_of_withBoost? (copy : (h.cell i).withBoost? b = some (h.cell j)) (depth : Nat) :
    (h.view (depth + 1) i).withBoost? b = some (h.view (depth + 1) j) := by
  unfold view
  cases found : h.cell i with
  | leaf q =>
    rw [found] at copy
    obtain ⟨p, rated, same⟩ := Option.map_eq_some_iff.mp copy
    rw [← same]
    simp [Query.withBoost?, rated]
  | bool c s n m =>
    rw [found] at copy
    rw [← Option.some.inj copy]
    rfl
  | foreign x =>
    rw [found] at copy
    contradiction

/-- The objects that calls make: each refers to lists that are there, a different one for each slot,
and all that the lists name is there. -/
structure Sound (h : Heap) : Prop where
  placed (k : QueryId) : (h.cell k).Placed h.slots.size
  known (s : SlotId) : ∀ k ∈ h.clauses s, k < h.cells.size

/-- The objects that a call puts into lists. -/
def Call.listed : Call → List QueryId
  | .bool _ should mustNot must => should ++ mustNot ++ must
  | .addClause _ _ k => [k]
  | .leaf _ | .withBoost _ _ => []

theorem sound_empty : Sound empty where
  placed _ := ⟨nofun, nofun⟩
  known _ := nofun

section Sound
variable (sound : Sound h)
include sound

/-- A new object without lists, or with those of another one. -/
theorem sound_add (origin : c.hasClauses = false ∨ ∃ i b, (h.cell i).withBoost? b = some c) :
    Sound (h.add c).2 where
  placed k := by
    rw [cell_add]
    split
    · obtain bare | ⟨i, b, copy⟩ := origin
      · exact .of_bare bare
      · exact (sound.placed i).of_withBoost? copy
    · exact sound.placed k
  known s k member := by
    rw [size_add]
    exact Nat.lt_succ_of_lt (sound.known s k member)

theorem sound_addBool {should mustNot must : List QueryId}
    (listed : ∀ k ∈ should ++ mustNot ++ must, k < h.cells.size) :
    Sound (h.addBool b should mustNot must).2 where
  placed k := by
    have grown : (h.addBool b should mustNot must).2.slots.size = h.slots.size + 3 := by
      simp [addBool]
    rw [cell_addBool, grown]
    split
    · exact .of_new
    · exact (sound.placed k).mono (Nat.le_add_right _ _)
  known s k member := by
    simp only [List.mem_append] at listed
    rw [size_addBool]
    rw [clauses_addBool] at member
    apply Nat.lt_succ_of_lt
    split at member
    · exact listed k (.inr member)
    split at member
    · exact listed k (.inl (.inr member))
    split at member
    · exact listed k (.inl (.inl member))
    · exact sound.known s k member

theorem sound_extend (there : s < h.slots.size) (known : k < h.cells.size) :
    Sound (h.extend s k) where
  placed i := by
    rw [slots_extend]
    exact sound.placed i
  known t i member := by
    rw [clauses_extend there] at member
    split at member
    · obtain old | new := List.mem_append.mp member
      · exact sound.known t i old
      · rw [List.mem_singleton.mp new]
        exact known
    · exact sound.known t i member

theorem sound_after (listed : ∀ k ∈ call.listed, k < h.cells.size) : Sound (h.after call) := by
  obtain same | ⟨d, origin, same⟩ | ⟨b, should, mustNot, must, rfl, same⟩ |
    ⟨slot, i, k, s, rfl, list, same⟩ := after_cases h call
  · rw [same]
    exact sound
  · rw [same]
    exact sound_add sound origin
  · rw [same]
    exact sound_addBool sound listed
  · rw [same]
    exact sound_extend sound ((sound.placed i).there slot s list) (listed k List.mem_cons_self)

/-- What an object is does not depend on objects that come later. -/
theorem view_add (depth : Nat) (there : k < h.cells.size) :
    (h.add c).2.view depth k = h.view depth k := by
  induction depth generalizing k with
  | zero => rfl
  | succ depth ih =>
    have each (s : SlotId) : (h.clauses s).map ((h.add c).2.view depth) =
        (h.clauses s).map (h.view depth) :=
      List.map_congr_left fun i member => ih (sound.known s i member)
    simp only [view, cell_add, Nat.ne_of_lt there, if_false, clauses_add, each]

end Sound

/-- The objects that calls lead to, those among them that are refused included. A call puts objects
into lists that there are. -/
inductive Reachable : Heap → Prop where
  | empty : Reachable .empty
  | call {h : Heap} {c : Call} : Reachable h → (∀ k ∈ c.listed, k < h.cells.size) →
      Reachable (h.after c)

theorem sound_of_reachable (reached : Reachable h) : Sound h := by
  induction reached with
  | empty => exact sound_empty
  | call _ listed ih => exact sound_after ih listed

section Adds

/-- A call that adds a clause to an object. -/
def Call.AddsTo (i : QueryId) (call : Call) : Prop := ∃ slot k, call = .addClause slot i k

/-- What a call adds to a slot. -/
def Call.added? (slot : Slot) : Call → Option QueryId
  | .addClause other _ k => if slot = other then some k else none
  | _ => none

theorem clausesIn_extend (placed : (h.cell i).Placed h.slots.size)
    (list : (h.cell i).slot? slot = some s) (other : Slot) :
    (h.extend s k).clausesIn other i =
      if other = slot then h.clausesIn other i ++ [k] else h.clausesIn other i := by
  have there := placed.there slot s list
  unfold clausesIn
  rw [cell_extend]
  cases found : (h.cell i).slot? other with
  | none =>
    have apart : other ≠ slot := by
      rintro rfl
      rw [list] at found
      contradiction
    simp [apart]
  | some t =>
    have same : t = s ↔ other = slot := by
      constructor
      · rintro rfl
        exact placed.apart other slot t found list
      · rintro rfl
        exact Option.some.inj (found.symm.trans list)
    simp [clauses_extend there, same]

/-- A call that adds to one of two objects with the same lists adds to both. -/
theorem clausesIn_after (placed : (h.cell i).Placed h.slots.size)
    (full : (h.cell i).hasClauses = true)
    (shared : ∀ slot, (h.cell j).slot? slot = (h.cell i).slot? slot)
    (adds : call.AddsTo i ∨ call.AddsTo j) :
    (h.after call).cells = h.cells ∧ (h.after call).slots.size = h.slots.size ∧
      ∀ slot, (h.after call).clausesIn slot i =
        h.clausesIn slot i ++ (call.added? slot).toList := by
  obtain ⟨target, slot, k, rfl, same⟩ : ∃ target slot k, call = .addClause slot target k ∧
      (h.cell target).slot? slot = (h.cell i).slot? slot := by
    obtain ⟨slot, k, rfl⟩ | ⟨slot, k, rfl⟩ := adds
    · exact ⟨i, slot, k, rfl, rfl⟩
    · exact ⟨j, slot, k, rfl, shared slot⟩
  obtain ⟨s, list⟩ := Cell.exists_slot? full slot
  have grown : h.after (.addClause slot target k) = h.extend s k := by
    simp [after, Heap.call, addClause, same, list, extend]
  rw [grown]
  refine ⟨rfl, slots_extend, fun other => ?_⟩
  rw [clausesIn_extend placed list, Call.added?]
  split <;> simp

theorem clausesIn_run (placed : (h.cell i).Placed h.slots.size)
    (full : (h.cell i).hasClauses = true)
    (shared : ∀ slot, (h.cell j).slot? slot = (h.cell i).slot? slot) {calls : List Call}
    (adds : ∀ c ∈ calls, c.AddsTo i ∨ c.AddsTo j) (slot : Slot) :
    (h.run calls).clausesIn slot i =
      h.clausesIn slot i ++ calls.filterMap (Call.added? slot) := by
  induction calls generalizing h with
  | nil => exact (List.append_nil _).symm
  | cons call calls ih =>
    rw [List.forall_mem_cons] at adds
    obtain ⟨cells, slots, first⟩ := clausesIn_after placed full shared adds.1
    have still (k : QueryId) : (h.after call).cell k = h.cell k := by rw [cell, cells, cell]
    have rest := ih (h := h.after call) (by rwa [still, slots]) (by rwa [still])
      (by simpa only [still] using shared) adds.2
    change ((h.after call).run calls).clausesIn slot i = _
    rw [rest, first, List.append_assoc]
    cases value : call.added? slot <;> simp [value]

/-- Nothing is added to an object without lists. -/
theorem run_of_bare (bare : (h.cell i).hasClauses = false)
    (shared : ∀ slot, (h.cell j).slot? slot = (h.cell i).slot? slot) {calls : List Call}
    (adds : ∀ c ∈ calls, c.AddsTo i ∨ c.AddsTo j) : h.run calls = h := by
  induction calls with
  | nil => rfl
  | cons call calls ih =>
    rw [List.forall_mem_cons] at adds
    have refused : h.after call = h := by
      obtain ⟨slot, k, rfl⟩ | ⟨slot, k, rfl⟩ := adds.1
      · simp [after, Heap.call, addClause, Cell.slot?_eq_none bare]
      · simp [after, Heap.call, addClause, shared, Cell.slot?_eq_none bare]
    change (h.after call).run calls = h
    rw [refused]
    exact ih adds.2

theorem clausesIn_query (h : Heap) (slot : Slot) (i : QueryId) :
    (h.query i).clausesIn slot = (h.clausesIn slot i).map (h.view h.cells.size) := by
  unfold query view clausesIn
  cases h.cell i with
  | leaf | foreign => rfl
  | bool => cases slot <;> rfl

/-- What calls add to one of two objects with the same lists leaves neither as it was. -/
theorem query_run_eq_iff (placed : (h.cell i).Placed h.slots.size)
    (shared : ∀ slot, (h.cell j).slot? slot = (h.cell i).slot? slot) {calls : List Call}
    (adds : ∀ c ∈ calls, c.AddsTo i ∨ c.AddsTo j) :
    (h.run calls).query i = h.query i ↔ calls = [] ∨ (h.cell i).hasClauses = false := by
  constructor
  · intro same
    by_contra changed
    obtain ⟨some, full⟩ := not_or.mp changed
    rw [Bool.not_eq_false] at full
    obtain ⟨call, calls, rfl⟩ := List.exists_cons_of_ne_nil some
    have longer : ∃ slot, call.added? slot ≠ none := by
      obtain ⟨slot, k, rfl⟩ | ⟨slot, k, rfl⟩ := adds call List.mem_cons_self
      all_goals exact ⟨slot, by simp [Call.added?]⟩
    obtain ⟨slot, more⟩ := longer
    have length := congrArg (fun q => (q.clausesIn slot).length) same
    simp only [clausesIn_query, List.length_map, clausesIn_run placed full shared adds,
      List.length_append] at length
    obtain ⟨k, value⟩ := Option.ne_none_iff_exists'.mp more
    rw [List.filterMap_cons_some value, List.length_cons] at length
    omega
  · rintro (rfl | bare)
    · rfl
    · rw [run_of_bare bare shared adds]

end Adds

/-- A copy is one more object, next to one that there is. -/
theorem withBoost_eq_ok (copied : h.withBoost i b = .ok (j, g)) : i < h.cells.size ∧
    ∃ c, (h.cell i).withBoost? b = some c ∧ j = h.cells.size ∧ g = (h.add c).2 := by
  unfold withBoost at copied
  split at copied
  · rename_i c made
    cases copied
    refine ⟨?_, c, made, rfl, rfl⟩
    by_contra absent
    have none : h.cell i = default := getD_of_size_le (Nat.le_of_not_lt absent)
    rw [none] at made
    contradiction
  · contradiction

/-- A copy with another boost and the query that it was made of have their clauses in common. The
copy is made without a change to anything that was there. Whatever is called from then on, the two
are the same, and rendered the same, but for their boost. So when clauses are added to either of
them, both have them, and neither is as it was, unless the query is one without clauses, which
nothing can be added to. -/
theorem withBoost_shares (h : Heap) (reached : Reachable h) (i j : QueryId) (b : Value) (g : Heap)
    (copied : h.withBoost i b = .ok (j, g)) :
    (∀ k < h.cells.size, ∀ depth, g.view depth k = h.view depth k) ∧
    (∀ calls, ((g.run calls).query i).withBoost? b = some ((g.run calls).query j) ∧
      ((g.run calls).query j).render?.map Value.withoutBoost =
        ((g.run calls).query i).render?.map Value.withoutBoost) ∧
    ∀ calls, (∀ c ∈ calls, c.AddsTo i ∨ c.AddsTo j) →
      ((g.cell i).hasClauses = true → ∀ slot,
        (g.run calls).clausesIn slot i =
          g.clausesIn slot i ++ calls.filterMap (Call.added? slot) ∧
        (g.run calls).clausesIn slot j =
          g.clausesIn slot j ++ calls.filterMap (Call.added? slot)) ∧
      ((g.run calls).query i = g.query i ↔ calls = [] ∨ (g.cell i).hasClauses = false) ∧
      ((g.run calls).query j = g.query j ↔ calls = [] ∨ (g.cell i).hasClauses = false) := by
  obtain ⟨there, c, made, rfl, rfl⟩ := withBoost_eq_ok copied
  have sound := sound_of_reachable reached
  have sound' : Sound (h.add c).2 := sound_add sound (.inr ⟨i, b, made⟩)
  have old : (h.add c).2.cell i = h.cell i := by rw [cell_add, if_neg (Nat.ne_of_lt there)]
  have copy : ((h.add c).2.cell i).withBoost? b = some ((h.add c).2.cell h.cells.size) := by
    rw [old, made, cell_add, if_pos rfl]
  refine ⟨fun k known depth => view_add sound depth known, fun calls => ?_, fun calls adds => ?_⟩
  · have grown : h.cells.size < (h.add c).2.cells.size := by simp
    have still : (((h.add c).2.run calls).cell i).withBoost? b =
        some (((h.add c).2.run calls).cell h.cells.size) := by
      rwa [cell_run (Nat.lt_trans there grown), cell_run grown]
    have same := view_of_withBoost? still ((h.add c).2.run calls).cells.size
    exact ⟨same, Query.render?_withBoost? same⟩
  · have shared (slot : Slot) :
        ((h.add c).2.cell h.cells.size).slot? slot = ((h.add c).2.cell i).slot? slot :=
      Cell.slot?_of_withBoost? copy
    have alike := Cell.hasClauses_of_withBoost? copy
    have swapped : ∀ c ∈ calls, c.AddsTo h.cells.size ∨ c.AddsTo i :=
      fun c member => (adds c member).symm
    refine ⟨fun full slot => ⟨?_, ?_⟩, ?_, ?_⟩
    · exact clausesIn_run (sound'.placed i) full shared adds slot
    · exact clausesIn_run (sound'.placed _) (alike.trans full) (fun slot => (shared slot).symm)
        swapped slot
    · exact query_run_eq_iff (sound'.placed i) shared adds
    · rw [← alike]
      exact query_run_eq_iff (sound'.placed _) (fun slot => (shared slot).symm) swapped

/-- A query with a clause that may match. -/
def sharingProgram : List Call :=
  [.leaf (.fuzzy ⟨.null, "type", "inn"⟩), .bool .null [0] [] []]

theorem reachable_sharingProgram : Reachable (empty.run sharingProgram) := by
  simp only [sharingProgram, run, List.foldl_cons, List.foldl_nil]
  iterate 2 refine Reachable.call ?_ (by decide)
  exact Reachable.empty

theorem withBoost_shares_sample :
    let h := empty.run sharingProgram
    Reachable h ∧ ∃ g, h.withBoost 1 (.int 2) = .ok (2, g) ∧
      (g.run [.addClause .mustNot 2 0]).clausesIn .mustNot 1 = [0] := by
  intro h
  obtain ⟨_, _, adds⟩ := withBoost_shares h reachable_sharingProgram 1 2 (.int 2) _ rfl
  obtain ⟨both, _, _⟩ := adds [.addClause .mustNot 2 0]
    (List.forall_mem_singleton.mpr (.inr ⟨.mustNot, 0, rfl⟩))
  exact ⟨reachable_sharingProgram, _, rfl, (both rfl .mustNot).1⟩

/-- What is added to a query turns up in the copy that was made before: the copy is another tree,
and prints and renders otherwise. -/
theorem withBoost_not_kept :
    let h := empty.run sharingProgram
    Reachable h ∧ ∃ g, h.withBoost 1 (.int 2) = .ok (2, g) ∧
      let later := g.run [.addClause .mustNot 1 0]
      later.query 2 ≠ g.query 2 ∧ (later.query 2).text? ≠ (g.query 2).text? ∧
        (later.query 2).render? ≠ (g.query 2).render? := by
  intro h
  refine ⟨reachable_sharingProgram, (h.add (.bool (.int 2) 0 1 2)).2, rfl, ?_⟩
  intro later
  have printed : (later.query 2).text? = .ok "(type:inn~ -type:inn~)^2" := rfl
  have before : ((h.add (.bool (.int 2) 0 1 2)).2.query 2).text? = .ok "(type:inn~)^2" := rfl
  have text : (later.query 2).text? ≠ ((h.add (.bool (.int 2) 0 1 2)).2.query 2).text? := by
    rw [printed, before]
    simp
  refine ⟨fun same => text (congrArg Query.text? same), text, fun same => ?_⟩
  have barred := congrArg (fun r : Except Failure Value => r.toOption.elim [] fun v =>
    v.boolBody?.elim [] (Value.clausesIn "must_not")) same
  have one : [Leaf.render (.fuzzy ⟨.null, "type", "inn"⟩)] = [] := barred
  contradiction

end Heap
end SearchCriteria
