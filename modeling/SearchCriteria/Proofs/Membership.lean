import Mathlib.Data.List.Nodup
import SearchCriteria.Proofs.Store

/-! How often a chain lists a node. Nodes that are created are new to their chain. A merge is
refused only where both nodes know one chain, so it lists a node again exactly when the two chains
have one in common, and no later call takes it out. -/
namespace SearchCriteria
namespace Store
variable {s : Store} {i j chain : Nat} {c : Criterion} {ids : List Nat}

/-- A store in which no chain lists a node twice. -/
def Distinct (s : Store) : Prop := ∀ d < s.chains.size, (s.members d).Nodup

theorem distinct_iff : s.Distinct ↔ ∀ d, (s.members d).Nodup := by
  constructor
  · intro all d
    by_cases bound : d < s.chains.size
    · exact all d bound
    · rw [members, getD_of_size_le (Nat.le_of_not_lt bound)]
      exact List.nodup_nil
  · intro all d _
    exact all d

theorem distinct_withChain_iff : (s.withChain ids).Distinct ↔ s.Distinct ∧ ids.Nodup := by
  unfold Distinct
  simp only [chains_withChain, members_withChain]
  constructor
  · intro all
    refine ⟨fun d bound => ?_, ?_⟩
    · have other : d ≠ s.chains.size := Nat.ne_of_lt bound
      simpa only [if_neg other] using all d (Nat.lt_succ_of_lt bound)
    · simpa only [if_pos] using all s.chains.size (Nat.lt_succ_self _)
  · rintro ⟨old, new⟩ d bound
    split
    · exact new
    · exact old d (by omega)

theorem distinct_extend_iff (inside : chain < s.chains.size) : (s.extend chain ids).Distinct ↔
    s.Distinct ∧ ids.Nodup ∧ (s.members chain).Disjoint ids := by
  constructor
  · intro all
    have longer := all chain (by rwa [chains_extend])
    rw [members_extend inside, if_pos rfl, List.nodup_append'] at longer
    refine ⟨fun d bound => ?_, longer.2⟩
    have same := all d (by rwa [chains_extend])
    rw [members_extend bound] at same
    split at same
    · exact (List.nodup_append'.mp same).1
    · exact same
  · rintro ⟨old, new, apart⟩ d bound
    rw [chains_extend] at bound
    rw [members_extend bound]
    split
    · rename_i same
      exact List.nodup_append'.mpr ⟨old d bound, new, same ▸ apart⟩
    · exact old d bound

/-- A new node is in no chain yet. -/
theorem distinct_append_iff (sound : Sound s) (inside : chain < s.chains.size) :
    (s.append chain c).2.Distinct ↔ s.Distinct := by
  have new : (s.members chain).Disjoint [s.nodes.size] := by
    intro i old new
    have bound := sound.members chain inside i old
    rw [List.mem_singleton.mp new] at bound
    exact Nat.lt_irrefl _ bound
  have longer : (s.append chain c).2.Distinct ↔
      s.Distinct ∧ [s.nodes.size].Nodup ∧ (s.members chain).Disjoint [s.nodes.size] :=
    distinct_extend_iff inside
  rw [longer]
  exact ⟨And.left, fun old => ⟨old, List.nodup_singleton _, new⟩⟩

theorem distinct_appendAll_iff {cs : Chain} (sound : Sound s) (inside : chain < s.chains.size)
    (held : ∀ c ∈ cs, c.Accepted) : (s.appendAll chain cs).2.Distinct ↔ s.Distinct := by
  induction cs generalizing s with
  | nil => exact .rfl
  | cons c cs ih =>
    have first := held c List.mem_cons_self
    have rest := fun d member => held d (List.mem_cons_of_mem c member)
    have still : chain < (s.append chain c).2.chains.size := by rwa [chains_append]
    rw [appendAll_cons, ih (sound_append sound inside first) still rest,
      distinct_append_iff sound inside]

/-- Whether a call lists no node for a second time: a merge joins chains that have no node in
common, and a list of nodes that a chain starts with has each of them once. -/
def Call.Apart (s : Store) : Call → Prop
  | .andNode i j =>
    (s.node j).chain ≠ (s.node i).chain → ∀ k ∈ s.chainOf i, k ∉ s.chainOf j
  | .createAmong _ _ nodes => nodes.Nodup
  | _ => True

theorem distinct_create_iff (field : Value) (isOr : Bool) {mate : Option Nat} (sound : Sound s)
    (there : ∀ i ∈ mate, i < s.nodes.size) : (s.create field isOr mate).2.Distinct ↔ s.Distinct := by
  cases mate with
  | none =>
    have empty : Sound (s.withChain []) := sound_withChain sound (by simp)
    have fresh : (s.create field isOr none).2.Distinct ↔ (s.withChain []).Distinct :=
      distinct_append_iff empty (by simp)
    rw [fresh, distinct_withChain_iff]
    exact ⟨And.left, fun old => ⟨old, List.nodup_nil⟩⟩
  | some j => exact distinct_append_iff sound (sound.known j (there j rfl))

theorem distinct_createAmong_iff {field : Value} {isOr : Bool} (sound : Sound s)
    (there : ∀ i ∈ ids, i < s.nodes.size) :
    (s.createAmong field isOr ids).2.Distinct ↔ s.Distinct ∧ ids.Nodup := by
  have fresh : (s.createAmong field isOr ids).2.Distinct ↔ (s.withChain ids).Distinct :=
    distinct_append_iff (sound_withChain sound there) (by simp)
  rw [fresh, distinct_withChain_iff]

/-- A merge is refused where both nodes know one chain, and only there. -/
theorem andNode_eq_error_iff {f : Failure} : s.andNode i j = .error f ↔
    (s.node j).chain = (s.node i).chain ∧ f = .criteria .alreadyInChain := by
  unfold andNode
  by_cases same : (s.node j).chain = (s.node i).chain
  · simp [same, eq_comm]
  · simp [same]

theorem distinct_after_andNode_iff (sound : Sound s) (left : i < s.nodes.size)
    (right : j < s.nodes.size) :
    (s.after (.andNode i j)).Distinct ↔ s.Distinct ∧ (Call.andNode i j).Apart s := by
  by_cases same : (s.node j).chain = (s.node i).chain
  · have kept : s.after (.andNode i j) = s := by simp [after, call, andNode, same]
    simp [kept, Call.Apart, same]
  · have merged : s.after (.andNode i j) = s.extend (s.node i).chain (s.chainOf j) := by
      simp [after, call, andNode, same]
    rw [merged, distinct_extend_iff (sound.known i left)]
    constructor
    · rintro ⟨old, _, apart⟩
      exact ⟨old, fun _ => List.disjoint_left.mp apart⟩
    · rintro ⟨old, apart⟩
      exact ⟨old, old _ (sound.known j right), List.disjoint_left.mpr (apart same)⟩

/-- A call that changes what a node says, if anything, lists nothing. -/
theorem distinct_after_of_update {call : Call} {m : Except Failure Criterion}
    (made : s.call call = m.map fun c => (i, s.update i c)) :
    (s.after call).Distinct ↔ s.Distinct := by
  rw [after, made]
  cases m with
  | error f => exact .rfl
  | ok c => exact .rfl

theorem distinct_after_ofPlain_iff {v : Value} (sound : Sound s) :
    (s.after (.ofPlain v)).Distinct ↔ s.Distinct := by
  rw [after, call, ofPlain]
  cases described : Chain.ofPlain? v with
  | error f => exact .rfl
  | ok cs =>
    have empty : Sound (s.withChain []) := sound_withChain sound (by simp)
    have filled : ((s.withChain []).appendAll s.chains.size cs).2.Distinct ↔ _ :=
      distinct_appendAll_iff empty (by simp) (Chain.accepted_of_ofPlain? described)
    have added : (s.withChain []).Distinct ↔ s.Distinct := by
      rw [distinct_withChain_iff]
      exact and_iff_left List.nodup_nil
    exact filled.trans added

/-- One call: no chain lists a node twice after it exactly when none did before it, and the call
itself listed no node again. -/
theorem distinct_after_iff {call : Call} (sound : Sound s)
    (there : ∀ i ∈ call.nodes, i < s.nodes.size) :
    (s.after call).Distinct ↔ s.Distinct ∧ call.Apart s := by
  cases call with
  | create field isOr mate =>
    have made := distinct_create_iff field isOr sound (by simpa [Call.nodes] using there)
    exact made.trans (and_iff_left trivial).symm
  | createAmong field isOr nodes => exact distinct_createAmong_iff sound there
  | andField i field =>
    have known : ∀ j ∈ some i, j < s.nodes.size := by simpa [Call.nodes] using there
    exact (distinct_create_iff field false sound known).trans (and_iff_left trivial).symm
  | orField i field =>
    have known : ∀ j ∈ some i, j < s.nodes.size := by simpa [Call.nodes] using there
    exact (distinct_create_iff field true sound known).trans (and_iff_left trivial).symm
  | andNode i j =>
    simp only [Call.nodes, List.forall_mem_cons] at there
    exact distinct_after_andNode_iff sound there.1 there.2.1
  | orNode i j =>
    have inside := sound.known i (there i List.mem_cons_self)
    exact (distinct_append_iff sound inside).trans (and_iff_left trivial).symm
  | constrain i k => exact (distinct_after_of_update rfl).trans (and_iff_left trivial).symm
  | negate i => exact (and_iff_left trivial).symm
  | boostBy i v => exact (distinct_after_of_update rfl).trans (and_iff_left trivial).symm
  | ofPlain v => exact (distinct_after_ofPlain_iff sound).trans (and_iff_left trivial).symm

/-- Calls one after the other, each about nodes that there are when its turn comes. -/
def Feasible (s : Store) : List Call → Prop
  | [] => True
  | c :: cs => (∀ i ∈ c.nodes, i < s.nodes.size) ∧ (s.after c).Feasible cs

instance decidableFeasible (s : Store) : (calls : List Call) → Decidable (s.Feasible calls)
  | [] => .isTrue trivial
  | c :: cs =>
    have := decidableFeasible (s.after c) cs
    inferInstanceAs (Decidable ((∀ i ∈ c.nodes, i < s.nodes.size) ∧ (s.after c).Feasible cs))

/-- Calls none of which lists a node for a second time. -/
def Apart (s : Store) : List Call → Prop
  | [] => True
  | c :: cs => c.Apart s ∧ (s.after c).Apart cs

theorem distinct_run_of_sound {calls : List Call} (sound : Sound s) (feasible : s.Feasible calls) :
    (s.run calls).Distinct ↔ s.Distinct ∧ s.Apart calls := by
  induction calls generalizing s with
  | nil => exact (and_iff_left trivial).symm
  | cons c cs ih =>
    have rest := ih (sound_after sound feasible.1) feasible.2
    have first := distinct_after_iff sound feasible.1
    change ((s.after c).run cs).Distinct ↔ _
    rw [rest, first, and_assoc]
    exact .rfl

theorem sound_run {calls : List Call} (sound : Sound s) (feasible : s.Feasible calls) :
    Sound (s.run calls) := by
  induction calls generalizing s with
  | nil => exact sound
  | cons c cs ih => exact ih (sound_after sound feasible.1) feasible.2

theorem reachable_run {calls : List Call} (reached : Reachable s) (feasible : s.Feasible calls) :
    Reachable (s.run calls) := by
  induction calls generalizing s with
  | nil => exact reached
  | cons c cs ih => exact ih (.call reached feasible.1) feasible.2

/-- After any run of calls no chain lists a node twice exactly when every merge on the way that was
not refused was one of chains without a node in common. What is refused is a merge of a node that
is listed already, and it changes nothing. -/
theorem distinct_run_iff (calls : List Call) (feasible : empty.Feasible calls) :
    ((∀ d, ((run empty calls).members d).Nodup) ↔ empty.Apart calls) ∧
    ∀ i < (run empty calls).nodes.size, ∀ j < (run empty calls).nodes.size, ∀ f,
      (run empty calls).andNode i j = .error f → j ∈ (run empty calls).chainOf i ∧
        (run empty calls).after (.andNode i j) = run empty calls := by
  have none : empty.Distinct := fun d bound => absurd bound (Nat.not_lt_zero d)
  constructor
  · rw [← distinct_iff, distinct_run_of_sound sound_empty feasible]
    exact and_iff_right none
  · intro i _ j there f refused
    have same := (andNode_eq_error_iff.mp refused).1
    have listed := (sound_run sound_empty feasible).listed j there
    rw [chainOf, same] at listed
    refine ⟨listed, ?_⟩
    rw [after, call, refused]

theorem distinct_run_sample :
    let calls := [Call.create (.text "rate") false none, .create (.text "type") false none,
      .andNode 0 1, .andField 0 (.text "name"), .andNode 0 2]
    empty.Feasible calls ∧ (∀ d, ((run empty calls).members d).Nodup) ∧
      (run empty calls).chainOf 0 = [0, 1, 2] := by
  intro calls
  have feasible : empty.Feasible calls := by
    simp only [calls, Feasible]
    decide
  have apart : empty.Apart calls := by
    simp only [calls, Apart, Call.Apart]
    decide
  exact ⟨feasible, (distinct_run_iff calls feasible).1.mpr apart, rfl⟩

/-- A node that a merge has listed already is listed again by the same merge, as it still knows a
chain of its own. -/
theorem merge_lists_again :
    let s := run empty [.create (.text "rate") false none, .create (.text "type") false none,
      .andNode 0 1]
    1 ∈ s.chainOf 0 ∧ ∃ t, s.andNode 0 1 = .ok (0, t) ∧ t.chainOf 0 = [0, 1, 1] := by
  refine ⟨by decide, _, rfl, rfl⟩

end Store
end SearchCriteria
