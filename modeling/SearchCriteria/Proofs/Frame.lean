import SearchCriteria.Proofs.Membership

/-! What calls leave as it was. A node that is there keeps the chain that it knows, a chain keeps
what it lists as its beginning, and only three kinds of call make a node say something else. -/
namespace SearchCriteria
namespace Store
variable {s t u : Store} {i j d chain : Nat} {c : Criterion} {ids : List Nat}
  {P Q : NodeId → Prop}

/-- How a store may change: by more nodes and chains, by chains that go on, and by what some nodes
say. -/
structure Frame (edited : NodeId → Prop) (s t : Store) : Prop where
  nodes : s.nodes.size ≤ t.nodes.size
  chains : s.chains.size ≤ t.chains.size
  chain (i : Nat) : i < s.nodes.size → (t.node i).chain = (s.node i).chain
  members (d : Nat) : d < s.chains.size → s.members d <+: t.members d
  node (i : Nat) : i < s.nodes.size → ¬ edited i → t.node i = s.node i

namespace Frame

theorem refl (P : NodeId → Prop) (s : Store) : Frame P s s where
  nodes := Nat.le_refl _
  chains := Nat.le_refl _
  chain _ _ := rfl
  members _ _ := List.prefix_rfl
  node _ _ _ := rfl

theorem mono (frame : Frame P s t) (wider : ∀ i, P i → Q i) : Frame Q s t where
  nodes := frame.nodes
  chains := frame.chains
  chain := frame.chain
  members := frame.members
  node i old other := frame.node i old fun edited => other (wider i edited)

theorem trans (first : Frame P s t) (second : Frame P t u) : Frame P s u where
  nodes := Nat.le_trans first.nodes second.nodes
  chains := Nat.le_trans first.chains second.chains
  chain i old := by
    have still := Nat.lt_of_lt_of_le old first.nodes
    rw [second.chain i still, first.chain i old]
  members d known := by
    have still := Nat.lt_of_lt_of_le known first.chains
    exact (first.members d known).trans (second.members d still)
  node i old other := by
    have still := Nat.lt_of_lt_of_le old first.nodes
    rw [second.node i still other, first.node i old other]

/-- What a node lists is still there, in the same order and at the beginning. -/
theorem chainOf (frame : Frame P s t) (sound : Sound s) (there : i < s.nodes.size) :
    s.chainOf i <+: t.chainOf i := by
  unfold Store.chainOf
  rw [frame.chain i there]
  exact frame.members _ (sound.known i there)

end Frame

theorem frame_withChain : Frame P s (s.withChain ids) where
  nodes := Nat.le_refl _
  chains := Nat.le_trans (Nat.le_succ _) (Nat.le_of_eq chains_withChain.symm)
  chain _ _ := rfl
  members d known := by
    have same : (s.withChain ids).members d = s.members d := by
      rw [members_withChain, if_neg (Nat.ne_of_lt known)]
    exact same ▸ List.prefix_rfl
  node _ _ _ := rfl

theorem frame_extend : Frame P s (s.extend chain ids) where
  nodes := Nat.le_refl _
  chains := Nat.le_of_eq chains_extend.symm
  chain _ _ := rfl
  members d known := by
    rw [members_extend known]
    split
    · exact List.prefix_append _ _
    · exact List.prefix_rfl
  node _ _ _ := rfl

theorem frame_append : Frame P s (s.append chain c).2 where
  nodes := Nat.le_trans (Nat.le_succ _) (Nat.le_of_eq size_append.symm)
  chains := Nat.le_of_eq chains_append.symm
  chain i old := by rw [node_append, if_neg (Nat.ne_of_lt old)]
  members d known := by
    rw [members_append known]
    split
    · exact List.prefix_append _ _
    · exact List.prefix_rfl
  node i old _ := by rw [node_append, if_neg (Nat.ne_of_lt old)]

theorem frame_appendAll {cs : Chain} : Frame P s (s.appendAll chain cs).2 := by
  fun_induction appendAll s chain cs with
  | case1 s => exact .refl P s
  | case2 s c => exact frame_append
  | case3 s c cs more ih => exact frame_append.trans ih

theorem frame_update : Frame (· = i) s (s.update i c) where
  nodes := Nat.le_of_eq size_update.symm
  chains := Nat.le_refl _
  chain j old := by
    by_cases there : i < s.nodes.size
    · exact chain_update there
    · have other : i ≠ j := by omega
      rw [node_update_of_ne other.symm]
  members _ _ := List.prefix_rfl
  node j _ other := node_update_of_ne other

/-- The calls that make a node say something else: they add a condition, negate or weigh it. -/
def Call.Edits : Call → NodeId → Prop
  | .constrain j _, i | .negate j, i | .boostBy j _, i => i = j
  | _, _ => False

/-- A call that is refused changes nothing, and no other call changes more than its frame says. -/
theorem frame_after (call : Call) : Frame call.Edits s (s.after call) := by
  -- A condition or a weight puts one criterion in the place of another, unless it is refused.
  have edit {j : NodeId} {m : Except Failure Criterion}
      (made : s.call call = m.map fun c => (j, s.update j c)) : Frame (· = j) s (s.after call) := by
    rw [after, made]
    cases m with
    | error f => exact .refl _ s
    | ok c => exact frame_update
  cases call with
  | create field isOr mate =>
    cases mate with
    | none => exact frame_withChain.trans frame_append
    | some j => exact frame_append
  | createAmong field isOr nodes => exact frame_withChain.trans frame_append
  | andField i field | orField i field | orNode i j => exact frame_append
  | andNode i j =>
    by_cases same : (s.node j).chain = (s.node i).chain
    · simpa [after, call, andNode, same] using Frame.refl _ s
    · simpa [after, call, andNode, same] using frame_extend
  | constrain i k => exact edit rfl
  | negate i => exact frame_update
  | boostBy i v => exact edit rfl
  | ofPlain v =>
    rw [after, call, ofPlain]
    cases Chain.ofPlain? v with
    | error f => exact .refl _ s
    | ok cs => exact frame_withChain.trans frame_appendAll

/-- What one call keeps is kept by a run of calls. -/
theorem frame_run (calls : List Call) :
    Frame (fun i => ∃ call ∈ calls, call.Edits i) s (s.run calls) := by
  induction calls generalizing s with
  | nil => exact .refl _ s
  | cons call calls ih =>
    have first := (frame_after (s := s) call).mono fun i edits =>
      (⟨call, List.mem_cons_self, edits⟩ : ∃ k ∈ call :: calls, k.Edits i)
    exact first.trans (ih.mono fun i ⟨k, member, edits⟩ => ⟨k, List.mem_cons_of_mem _ member, edits⟩)

end Store
end SearchCriteria
