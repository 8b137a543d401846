import SearchCriteria.Criteria.Store
import SearchCriteria.Proofs.Accepted
import SearchCriteria.Proofs.Arrays

/-! What builder calls make of a store. Every call is made of four changes, a new chain, a longer
chain, a new node and a node that says something else, and what these keep is kept by every run
of calls. -/
namespace SearchCriteria
namespace Store
variable {s : Store} {i j chain d : Nat} {c : Criterion} {ids : List Nat}

section Change

@[simp] theorem node_withChain : (s.withChain ids).node i = s.node i := rfl

@[simp] theorem size_withChain : (s.withChain ids).nodes.size = s.nodes.size := rfl

@[simp] theorem chains_withChain : (s.withChain ids).chains.size = s.chains.size + 1 := by
  simp [withChain]

theorem members_withChain :
    (s.withChain ids).members d = if d = s.chains.size then ids else s.members d := getD_push

@[simp] theorem node_extend : (s.extend chain ids).node i = s.node i := rfl

@[simp] theorem size_extend : (s.extend chain ids).nodes.size = s.nodes.size := rfl

@[simp] theorem chains_extend : (s.extend chain ids).chains.size = s.chains.size := by
  simp [extend]

theorem members_extend (known : d < s.chains.size) :
    (s.extend chain ids).members d =
      if d = chain then s.members d ++ ids else s.members d :=
  getD_modify fun same => same ▸ known

theorem node_append :
    (s.append chain c).2.node i = if i = s.nodes.size then { c with chain } else s.node i :=
  getD_push

@[simp] theorem size_append : (s.append chain c).2.nodes.size = s.nodes.size + 1 := by
  simp [append]

@[simp] theorem chains_append : (s.append chain c).2.chains.size = s.chains.size := by
  simp [append]

theorem members_append (known : d < s.chains.size) :
    (s.append chain c).2.members d =
      if d = chain then s.members d ++ [s.nodes.size] else s.members d :=
  members_extend known

theorem node_update_of_ne (other : j ≠ i) : (s.update i c).node j = s.node j :=
  (getD_modify fun same => absurd same other).trans (if_neg other)

theorem node_update (known : i < s.nodes.size) : (s.update i c).node j =
    if j = i then { c with chain := (s.node i).chain } else s.node j := by
  have changed : (s.update i c).node j = _ := getD_modify fun _ => known
  rw [changed]
  by_cases same : j = i
  · subst same
    rfl
  · rw [if_neg same, if_neg same]
    rfl

@[simp] theorem size_update : (s.update i c).nodes.size = s.nodes.size := by simp [update]

@[simp] theorem members_update : (s.update i c).members d = s.members d := rfl

@[simp] theorem chains_update : (s.update i c).chains.size = s.chains.size := rfl

theorem chain_update (known : i < s.nodes.size) :
    ((s.update i c).node j).chain = (s.node j).chain := by
  rw [node_update known]
  split
  · rename_i same
    rw [same]
  · rfl

end Change

section AppendAll
variable {cs : Chain}

theorem appendAll_cons : (s.appendAll chain (c :: cs)).2 =
    ((s.append chain c).2.appendAll chain cs).2 := by
  cases cs <;> rfl

theorem node_appendAll (old : i < s.nodes.size) :
    (s.appendAll chain cs).2.node i = s.node i := by
  induction cs generalizing s with
  | nil => rfl
  | cons c cs ih =>
    have still : i < (s.append chain c).2.nodes.size := by
      rw [size_append]
      omega
    have other : i ≠ s.nodes.size := Nat.ne_of_lt old
    rw [appendAll_cons, ih still, node_append, if_neg other]

theorem members_appendAll (known : d < s.chains.size) : (s.appendAll chain cs).2.members d =
    if d = chain then s.members d ++ List.range' s.nodes.size cs.length else s.members d := by
  induction cs generalizing s with
  | nil => split <;> simp [appendAll]
  | cons c cs ih =>
    have still : d < (s.append chain c).2.chains.size := by
      rw [chains_append]
      exact known
    rw [appendAll_cons, ih still, members_append known, size_append, List.length_cons,
      List.range'_succ]
    split <;> simp

/-- The new nodes are the criteria that were to be appended, in their order. -/
theorem map_node_appendAll : (List.range' s.nodes.size cs.length).map
    (s.appendAll chain cs).2.node = cs.map fun c => { c with chain } := by
  induction cs generalizing s with
  | nil => rfl
  | cons c cs ih =>
    have first : s.nodes.size < (s.append chain c).2.nodes.size := by
      rw [size_append]
      omega
    rw [List.length_cons, List.range'_succ, List.map_cons, List.map_cons, appendAll_cons,
      node_appendAll first, node_append, if_pos rfl, ← ih, size_append]

theorem appendAll_fst (full : cs ≠ []) :
    Nat.succ (s.appendAll chain cs).1 = s.nodes.size + cs.length := by
  fun_induction appendAll s chain cs with
  | case1 s => contradiction
  | case2 s c => rfl
  | case3 s c cs more ih =>
    rw [ih more, size_append, List.length_cons]
    omega

end AppendAll

/-- A store in which every node holds what it can hold and is listed in the chain that it knows,
and every chain lists nodes that there are. -/
structure Sound (s : Store) : Prop where
  accepted (i : Nat) : i < s.nodes.size → (s.node i).toCriterion.Accepted
  known (i : Nat) : i < s.nodes.size → (s.node i).chain < s.chains.size
  listed (i : Nat) : i < s.nodes.size → i ∈ s.chainOf i
  members (d : Nat) : d < s.chains.size → ∀ i : Nat, i ∈ s.members d → i < s.nodes.size

theorem sound_empty : Sound empty where
  accepted i bound := absurd bound (Nat.not_lt_zero i)
  known i bound := absurd bound (Nat.not_lt_zero i)
  listed i bound := absurd bound (Nat.not_lt_zero i)
  members d bound := absurd bound (Nat.not_lt_zero d)

theorem sound_withChain (sound : Sound s) (there : ∀ i ∈ ids, i < s.nodes.size) :
    Sound (s.withChain ids) where
  accepted := sound.accepted
  known i bound := by
    rw [chains_withChain, node_withChain]
    exact Nat.lt_succ_of_lt (sound.known i bound)
  listed i bound := by
    have old := sound.known i bound
    have other : (s.node i).chain ≠ s.chains.size := Nat.ne_of_lt old
    rw [chainOf, node_withChain, members_withChain, if_neg other]
    exact sound.listed i bound
  members d bound i member := by
    rw [chains_withChain] at bound
    rw [members_withChain] at member
    split at member
    · exact there i member
    · exact sound.members d (by omega) i member

theorem sound_extend (sound : Sound s) (there : ∀ i ∈ ids, i < s.nodes.size) :
    Sound (s.extend chain ids) where
  accepted := sound.accepted
  known i bound := by
    rw [chains_extend]
    exact sound.known i bound
  listed i bound := by
    have old := sound.listed i bound
    rw [chainOf] at old
    rw [chainOf, node_extend, members_extend (sound.known i bound)]
    split
    · exact List.mem_append_left _ old
    · exact old
  members d bound i member := by
    rw [chains_extend] at bound
    rw [members_extend bound] at member
    split at member
    · rcases List.mem_append.mp member with old | new
      · exact sound.members d bound i old
      · exact there i new
    · exact sound.members d bound i member

theorem sound_append (sound : Sound s) (inside : chain < s.chains.size) (held : c.Accepted) :
    Sound (s.append chain c).2 where
  accepted i bound := by
    rw [size_append] at bound
    rw [node_append]
    split
    · exact held
    · exact sound.accepted i (by omega)
  known i bound := by
    rw [size_append] at bound
    rw [node_append, chains_append]
    split
    · exact inside
    · exact sound.known i (by omega)
  listed i bound := by
    rw [size_append] at bound
    rw [chainOf, node_append]
    split
    · rename_i new
      rw [members_append inside, if_pos rfl, new]
      exact List.mem_append_right _ List.mem_cons_self
    · have old : i < s.nodes.size := by omega
      have member := sound.listed i old
      rw [chainOf] at member
      rw [members_append (sound.known i old)]
      split
      · exact List.mem_append_left _ member
      · exact member
  members d bound i member := by
    rw [chains_append] at bound
    rw [members_append bound] at member
    rw [size_append]
    split at member
    · rcases List.mem_append.mp member with old | new
      · have inner := sound.members d bound i old
        omega
      · rw [List.mem_singleton] at new
        omega
    · have inner := sound.members d bound i member
      omega

theorem sound_update (sound : Sound s) (there : i < s.nodes.size) (held : c.Accepted) :
    Sound (s.update i c) where
  accepted j bound := by
    rw [size_update] at bound
    rw [node_update there]
    split
    · exact held
    · exact sound.accepted j bound
  known j bound := by
    rw [size_update] at bound
    rw [chain_update there, chains_update]
    exact sound.known j bound
  listed j bound := by
    rw [size_update] at bound
    rw [chainOf, chain_update there, members_update]
    exact sound.listed j bound
  members d bound j member := by
    rw [size_update]
    exact sound.members d bound j member

theorem sound_appendAll {cs : Chain} (sound : Sound s) (inside : chain < s.chains.size)
    (held : ∀ c ∈ cs, c.Accepted) : Sound (s.appendAll chain cs).2 := by
  fun_induction appendAll s chain cs with
  | case1 s => exact sound
  | case2 s c => exact sound_append sound inside (held c List.mem_cons_self)
  | case3 s c cs _ ih =>
    apply ih
    · exact sound_append sound inside (held c List.mem_cons_self)
    · rw [chains_append]
      exact inside
    · exact fun d member => held d (List.mem_cons_of_mem c member)

/-- The nodes that a call is about. -/
def Call.nodes : Call → List NodeId
  | .create _ _ mate => mate.toList
  | .createAmong _ _ nodes => nodes
  | .andField i _ | .orField i _ | .constrain i _ | .negate i | .boostBy i _ => [i]
  | .andNode i j | .orNode i j => [i, j]
  | .ofPlain _ => []

theorem sound_create {field : Value} {isOr : Bool} {mate : Option Nat} (sound : Sound s)
    (there : ∀ i ∈ mate, i < s.nodes.size) : Sound (s.create field isOr mate).2 := by
  have fresh := Criterion.accepted_start field isOr
  cases mate with
  | none =>
    have empty : Sound (s.withChain []) := sound_withChain sound (by simp)
    exact sound_append empty (by simp) fresh
  | some j => exact sound_append sound (sound.known j (there j rfl)) fresh

theorem sound_createAmong {field : Value} {isOr : Bool} (sound : Sound s)
    (there : ∀ i ∈ ids, i < s.nodes.size) : Sound (s.createAmong field isOr ids).2 :=
  sound_append (sound_withChain sound there) (by simp) (Criterion.accepted_start field isOr)

/-- A call on nodes that there are leaves a store as sound as it was. -/
theorem sound_call {call : Call} {r : NodeId × Store} (sound : Sound s)
    (there : ∀ i ∈ call.nodes, i < s.nodes.size) (made : s.call call = .ok r) : Sound r.2 := by
  cases call with
  | create field isOr mate =>
    cases made
    exact sound_create sound (by simpa [Call.nodes] using there)
  | createAmong field isOr nodes =>
    cases made
    exact sound_createAmong sound there
  | andField i field | orField i field =>
    cases made
    exact sound_create sound (by simpa [Call.nodes] using there)
  | andNode i j =>
    simp only [Call.nodes, List.forall_mem_cons] at there
    simp only [Store.call, andNode] at made
    split at made
    · contradiction
    · cases made
      exact sound_extend sound (sound.members _ (sound.known j there.2.1))
  | orNode i j =>
    simp only [Call.nodes, List.forall_mem_cons] at there
    cases made
    exact sound_append sound (sound.known i there.1)
      (Criterion.accepted_alternative (sound.accepted j there.2.1))
  | constrain i k =>
    have inside := there i List.mem_cons_self
    obtain ⟨c, held, rfl⟩ := map_eq_ok_iff.mp made
    exact sound_update sound inside (Criterion.accepted_constrain? (sound.accepted i inside) held)
  | negate i =>
    have inside := there i List.mem_cons_self
    cases made
    exact sound_update sound inside (Criterion.accepted_negated (sound.accepted i inside))
  | boostBy i v =>
    have inside := there i List.mem_cons_self
    obtain ⟨c, held, rfl⟩ := map_eq_ok_iff.mp made
    exact sound_update sound inside (Criterion.accepted_boostBy? (sound.accepted i inside) held)
  | ofPlain v =>
    obtain ⟨cs, described, rfl⟩ := map_eq_ok_iff.mp made
    have empty : Sound (s.withChain []) := sound_withChain sound (by simp)
    exact sound_appendAll empty (by simp) (Chain.accepted_of_ofPlain? described)

theorem sound_after {call : Call} (sound : Sound s) (there : ∀ i ∈ call.nodes, i < s.nodes.size) :
    Sound (s.after call) := by
  unfold after
  split
  · rename_i made
    exact sound_call sound there made
  · exact sound

/-- The stores that calls lead to, those among them that are refused included. A call is about
nodes that there are. -/
inductive Reachable : Store → Prop where
  | empty : Reachable .empty
  | call {s : Store} {c : Call} : Reachable s → (∀ i ∈ c.nodes, i < s.nodes.size) →
      Reachable (s.after c)

theorem sound_of_reachable (reached : Reachable s) : Sound s := by
  induction reached with
  | empty => exact sound_empty
  | call _ there ih => exact sound_after ih there

section OfPlain
variable {v : Value} {cs : Chain}

/-- The chain that criteria are appended to, when it is new, and the last of them knows it. -/
theorem chainOf_appendAll (full : cs ≠ []) :
    let r := (s.withChain []).appendAll s.chains.size cs
    (r.2.node r.1).chain = s.chains.size ∧
      r.2.chainOf r.1 = List.range' s.nodes.size cs.length := by
  intro r
  have known : s.chains.size < (s.withChain []).chains.size := by simp
  have last : Nat.succ r.1 = s.nodes.size + cs.length := appendAll_fst full
  have listed : r.2.members s.chains.size = List.range' s.nodes.size cs.length := by
    rw [members_appendAll known, if_pos rfl, members_withChain, if_pos rfl]
    rfl
  have nodes : (List.range' s.nodes.size cs.length).map r.2.node = _ := map_node_appendAll
  have some : 0 < cs.length := List.length_pos_iff.mpr full
  have chain : (r.2.node r.1).chain = s.chains.size := by
    have member : r.1 ∈ List.range' s.nodes.size cs.length := by
      rw [List.mem_range'_1]
      omega
    have there := List.mem_map_of_mem (f := r.2.node) member
    rw [nodes] at there
    obtain ⟨c, _, same⟩ := List.mem_map.mp there
    rw [← same]
  refine ⟨chain, ?_⟩
  rw [chainOf, chain, listed]

/-- What a document describes becomes a new chain of new nodes, one for each criterion of the
document and in its order, the last of which is answered. All that was there stays as it is. -/
theorem ofPlain_spec (described : Chain.ofPlain? v = .ok cs) (full : cs ≠ []) :
    ∃ j t, s.ofPlain v = .ok (j, t) ∧
      (t.chainOf j).getLast? = some j ∧ t.criteria j = cs ∧
      (t.node j).chain = s.chains.size ∧ (∀ k ∈ t.chainOf j, s.nodes.size ≤ k) ∧
      (∀ k < s.nodes.size, t.node k = s.node k) ∧
      (∀ d < s.chains.size, t.members d = s.members d) := by
  let r := (s.withChain []).appendAll s.chains.size cs
  have last : Nat.succ r.1 = s.nodes.size + cs.length := appendAll_fst full
  have nodes : (List.range' s.nodes.size cs.length).map r.2.node = _ := map_node_appendAll
  have some : 0 < cs.length := List.length_pos_iff.mpr full
  have ⟨chain, whole⟩ : (r.2.node r.1).chain = s.chains.size ∧
      r.2.chainOf r.1 = List.range' s.nodes.size cs.length := chainOf_appendAll full
  refine ⟨r.1, r.2, ?_, ?_, ?_, chain, ?_, ?_, ?_⟩
  · rw [ofPlain, described]
    rfl
  · rw [whole, List.getLast?_range', if_neg (Nat.ne_of_gt some)]
    congr 1
    omega
  · have criteria := congrArg (List.map Node.toCriterion) nodes
    rw [List.map_map, List.map_map] at criteria
    rw [Store.criteria, whole]
    exact criteria.trans (List.map_id cs)
  · intro k member
    rw [whole, List.mem_range'_1] at member
    exact member.1
  · intro k old
    exact node_appendAll old
  · intro d old
    have known : d < (s.withChain []).chains.size := by
      rw [chains_withChain]
      omega
    have other : d ≠ s.chains.size := Nat.ne_of_lt old
    rw [members_appendAll known, if_neg other, members_withChain, if_neg other]

/-- No node of a new chain is listed in it twice. -/
theorem nodup_ofPlain {j : NodeId} {t : Store} (made : s.ofPlain v = .ok (j, t))
    (described : Chain.ofPlain? v = .ok cs) (full : cs ≠ []) : (t.chainOf j).Nodup := by
  rw [ofPlain, described] at made
  have new : (s.withChain []).appendAll s.chains.size cs = (j, t) := Except.ok.inj made
  have listed := (chainOf_appendAll (s := s) full).2
  rw [new] at listed
  rw [listed]
  exact List.nodup_range'

end OfPlain

end Store
end SearchCriteria
