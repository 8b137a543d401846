import SearchCriteria.Proofs.Changes
import SearchCriteria.Proofs.Frame

/-! Stores that are the same but for a gap: nodes and a chain in one of them that nothing knows in
the other. What is built after that has higher numbers there, and nothing else tells the two apart.
Every call keeps it so. -/
namespace SearchCriteria
namespace Store

/-- How many nodes and chains there were, and how many more came that nothing knows. -/
structure Gap where
  nodes : Nat
  idle : Nat
  chains : Nat
  more : Nat

namespace Gap
variable (g : Gap) {i j d e a : Nat}

/-- The number of a node on the other side of the gap. -/
def node (i : Nat) : Nat := if i < g.nodes then i else i + g.idle

def chain (d : Nat) : Nat := if d < g.chains then d else d + g.more

variable {g}

theorem node_of_le (new : g.nodes ≤ i) : g.node i = i + g.idle := if_neg (Nat.not_lt_of_le new)

theorem chain_of_le (new : g.chains ≤ d) : g.chain d = d + g.more := if_neg (Nat.not_lt_of_le new)

theorem node_inj : g.node i = g.node j ↔ i = j := by
  unfold node
  split <;> split <;> omega

theorem chain_inj : g.chain d = g.chain e ↔ d = e := by
  unfold chain
  split <;> split <;> omega

theorem node_lt (bound : i < a) (past : g.nodes ≤ a) : g.node i < a + g.idle := by
  unfold node
  split <;> omega

theorem chain_lt (bound : d < a) (past : g.chains ≤ a) : g.chain d < a + g.more := by
  unfold chain
  split <;> omega

end Gap

/-- Stores that are the same but for a gap in the second. -/
structure Same (g : Gap) (s t : Store) : Prop where
  nodes : g.nodes ≤ s.nodes.size
  chains : g.chains ≤ s.chains.size
  nodesSize : t.nodes.size = s.nodes.size + g.idle
  chainsSize : t.chains.size = s.chains.size + g.more
  node (i : Nat) : i < s.nodes.size →
    t.node (g.node i) = { s.node i with chain := g.chain (s.node i).chain }
  members (d : Nat) : d < s.chains.size → t.members (g.chain d) = (s.members d).map g.node

variable {g : Gap} {s t : Store} {i j d chain : Nat} {c : Criterion} {ids : List Nat}

namespace Same

theorem newNode (same : Same g s t) : g.node s.nodes.size = t.nodes.size := by
  rw [Gap.node_of_le same.nodes, same.nodesSize]

theorem newChain (same : Same g s t) : g.chain s.chains.size = t.chains.size := by
  rw [Gap.chain_of_le same.chains, same.chainsSize]

theorem withChain (same : Same g s t) :
    Same g (s.withChain ids) (t.withChain (ids.map g.node)) where
  nodes := same.nodes
  chains := by
    rw [chains_withChain]
    exact Nat.le_succ_of_le same.chains
  nodesSize := same.nodesSize
  chainsSize := by
    rw [chains_withChain, chains_withChain, same.chainsSize]
    omega
  node := same.node
  members d known := by
    rw [chains_withChain] at known
    rw [members_withChain, members_withChain, ← same.newChain]
    by_cases new : d = s.chains.size
    · rw [new, if_pos rfl, if_pos rfl]
    · rw [if_neg new, if_neg (mt Gap.chain_inj.mp new)]
      exact same.members d (by omega)

theorem extend (same : Same g s t) (chain : Nat) (ids : List Nat) :
    Same g (s.extend chain ids) (t.extend (g.chain chain) (ids.map g.node)) where
  nodes := same.nodes
  chains := by
    rw [chains_extend]
    exact same.chains
  nodesSize := same.nodesSize
  chainsSize := by
    rw [chains_extend, chains_extend]
    exact same.chainsSize
  node := same.node
  members d known := by
    rw [chains_extend] at known
    have inside : g.chain d < t.chains.size := by
      rw [same.chainsSize]
      exact Gap.chain_lt known same.chains
    rw [members_extend known, members_extend inside, same.members d known]
    by_cases this : d = chain
    · rw [this, if_pos rfl, if_pos rfl, List.map_append]
    · rw [if_neg this, if_neg (mt Gap.chain_inj.mp this)]

theorem append (same : Same g s t) :
    Same g (s.append chain c).2 (t.append (g.chain chain) c).2 where
  nodes := by
    rw [size_append]
    exact Nat.le_succ_of_le same.nodes
  chains := by
    rw [chains_append]
    exact same.chains
  nodesSize := by
    rw [size_append, size_append, same.nodesSize]
    omega
  chainsSize := by
    rw [chains_append, chains_append]
    exact same.chainsSize
  node i bound := by
    rw [size_append] at bound
    rw [node_append, node_append, ← same.newNode]
    by_cases new : i = s.nodes.size
    · rw [if_pos new, if_pos (Gap.node_inj.mpr new)]
    · rw [if_neg new, if_neg (mt Gap.node_inj.mp new)]
      exact same.node i (by omega)
  members d known := by
    have extended := (same.extend chain [s.nodes.size]).members d (by simpa using known)
    rw [List.map_singleton, same.newNode] at extended
    exact extended

theorem update (same : Same g s t) (there : i < s.nodes.size) :
    Same g (s.update i c) (t.update (g.node i) c) where
  nodes := by
    rw [size_update]
    exact same.nodes
  chains := same.chains
  nodesSize := by
    rw [size_update, size_update]
    exact same.nodesSize
  chainsSize := same.chainsSize
  node j bound := by
    rw [size_update] at bound
    have inside : g.node i < t.nodes.size := by
      rw [same.nodesSize]
      exact Gap.node_lt there same.nodes
    rw [node_update there, node_update inside]
    by_cases this : j = i
    · rw [this, if_pos rfl, if_pos rfl, same.node i there]
    · rw [if_neg this, if_neg (mt Gap.node_inj.mp this)]
      exact same.node j bound
  members := same.members

theorem appendAll (same : Same g s t) (chain : Nat) (cs : Chain) :
    (t.appendAll (g.chain chain) cs).1 = g.node (s.appendAll chain cs).1 ∧
      Same g (s.appendAll chain cs).2 (t.appendAll (g.chain chain) cs).2 := by
  fun_induction Store.appendAll s chain cs generalizing t with
  | case1 s => exact ⟨same.newNode.symm, same⟩
  | case2 s c => exact ⟨same.newNode.symm, same.append⟩
  | case3 s c cs more ih =>
    cases cs with
    | nil => contradiction
    | cons d cs => exact ih same.append

theorem littered (same : Same g s t) (left : Option Chain) :
    Same g (s.littered left) (t.littered left) := by
  cases left with
  | none => exact same
  | some cs =>
    have begun : Same g (s.withChain []) (t.withChain []) := same.withChain
    have filled := (begun.appendAll s.chains.size cs).2
    rw [same.newChain] at filled
    exact filled

theorem chainOf (same : Same g s t) (sound : Sound s) (there : i < s.nodes.size) :
    t.chainOf (g.node i) = (s.chainOf i).map g.node := by
  rw [Store.chainOf, same.node i there]
  exact same.members _ (sound.known i there)

theorem criterion (same : Same g s t) (there : i < s.nodes.size) :
    (t.node (g.node i)).toCriterion = (s.node i).toCriterion := by rw [same.node i there]

/-- A node and its chain are known by their criteria, whatever their numbers. -/
theorem criteria (same : Same g s t) (sound : Sound s) (there : i < s.nodes.size) :
    (t.node (g.node i)).toCriterion = (s.node i).toCriterion ∧
      t.criteria (g.node i) = s.criteria i := by
  constructor
  · exact same.criterion there
  · rw [Store.criteria, Store.criteria, same.chainOf sound there, List.map_map]
    apply List.map_congr_left
    intro j member
    have bound := sound.members _ (sound.known i there) j member
    exact same.criterion bound

end Same

theorem members_littered (left : Option Chain) (known : d < s.chains.size) :
    (s.littered left).members d = s.members d := by
  cases left with
  | none => rfl
  | some cs =>
    have other : d ≠ s.chains.size := Nat.ne_of_lt known
    have inside : d < (s.withChain []).chains.size := by
      rw [chains_withChain]
      omega
    rw [littered, members_appendAll inside, if_neg other, members_withChain, if_neg other]

theorem node_littered (left : Option Chain) (there : i < s.nodes.size) :
    (s.littered left).node i = s.node i := by
  cases left with
  | none => rfl
  | some cs => exact node_appendAll there

theorem frame_littered {P : NodeId → Prop} (left : Option Chain) : Frame P s (s.littered left) := by
  cases left with
  | none => exact .refl P s
  | some cs => exact frame_withChain.trans frame_appendAll

/-- A store is the same as it is with something in it that nothing knows. -/
theorem same_littered (sound : Sound s) (left : Option Chain) :
    ∃ g : Gap, (∀ i < s.nodes.size, g.node i = i) ∧ Same g s (s.littered left) := by
  have frame : Frame (fun _ => False) s (s.littered left) := frame_littered left
  let g : Gap := {
    nodes := s.nodes.size
    idle := (s.littered left).nodes.size - s.nodes.size
    chains := s.chains.size
    more := (s.littered left).chains.size - s.chains.size }
  have old : ∀ i < s.nodes.size, g.node i = i := fun i bound => if_pos bound
  refine ⟨g, old, Nat.le_refl _, Nat.le_refl _, ?_, ?_, ?_, ?_⟩
  · exact (Nat.add_sub_cancel' frame.nodes).symm
  · exact (Nat.add_sub_cancel' frame.chains).symm
  · intro i bound
    have chain : g.chain (s.node i).chain = (s.node i).chain := if_pos (sound.known i bound)
    rw [old i bound, node_littered left bound, chain]
  · intro d known
    have chain : g.chain d = d := if_pos known
    have listed : (s.members d).map g.node = (s.members d).map id :=
      List.map_congr_left fun i member => old i (sound.members d known i member)
    rw [chain, members_littered left known, listed, List.map_id]

/-- A call with other numbers for the nodes that it is about. -/
def Call.renumbered (f : NodeId → NodeId) : Call → Call
  | .create field isOr mate => .create field isOr (mate.map f)
  | .createAmong field isOr nodes => .createAmong field isOr (nodes.map f)
  | .andField i field => .andField (f i) field
  | .orField i field => .orField (f i) field
  | .andNode i j => .andNode (f i) (f j)
  | .orNode i j => .orNode (f i) (f j)
  | .constrain i k => .constrain (f i) k
  | .negate i => .negate (f i)
  | .boostBy i v => .boostBy (f i) v
  | .ofPlain v => .ofPlain v

/-- Outcomes on the two sides of a gap: one refusal, or a node and its counterpart. -/
inductive Answers (g : Gap) :
    Except Failure (NodeId × Store) → Except Failure (NodeId × Store) → Prop where
  | ok {i : NodeId} {s t : Store} : Same g s t → Answers g (.ok (i, s)) (.ok (g.node i, t))
  | error (f : Failure) : Answers g (.error f) (.error f)

theorem answers_appendAll (same : Same g s t) (chain : Nat) (cs : Chain) :
    Answers g (.ok (s.appendAll chain cs)) (.ok (t.appendAll (g.chain chain) cs)) := by
  obtain ⟨last, filled⟩ := same.appendAll chain cs
  have answered : t.appendAll (g.chain chain) cs =
      (g.node (s.appendAll chain cs).1, (t.appendAll (g.chain chain) cs).2) := by rw [← last]
  rw [answered]
  exact .ok filled

/-- Criteria in a new chain. -/
theorem answers_begin (same : Same g s t) (nodes : List NodeId) (cs : Chain) :
    Answers g (.ok ((s.withChain nodes).appendAll s.chains.size cs))
      (.ok ((t.withChain (nodes.map g.node)).appendAll t.chains.size cs)) := by
  have begun : Same g (s.withChain nodes) (t.withChain (nodes.map g.node)) := same.withChain
  have answered := answers_appendAll begun s.chains.size cs
  rw [same.newChain] at answered
  exact answered

/-- A criterion in the chain of a node. -/
theorem answers_beside (same : Same g s t) (there : i < s.nodes.size) (c : Criterion) :
    Answers g (.ok (s.append (s.node i).chain c)) (.ok (t.append (t.node (g.node i)).chain c)) := by
  rw [same.node i there]
  exact answers_appendAll same (s.node i).chain [c]

theorem answers_update (same : Same g s t) (there : i < s.nodes.size)
    (m : Except Failure Criterion) : Answers g (m.map fun c => (i, s.update i c))
      (m.map fun c => (g.node i, t.update (g.node i) c)) := by
  cases m with
  | error f => exact .error f
  | ok c => exact .ok (same.update there)

theorem answers_andNode (same : Same g s t) (sound : Sound s) (left : i < s.nodes.size)
    (right : j < s.nodes.size) :
    Answers g (s.andNode i j) (t.andNode (g.node i) (g.node j)) := by
  rw [Store.andNode, Store.andNode, same.node i left, same.node j right]
  simp only [Gap.chain_inj]
  split
  · exact .error _
  · rw [same.chainOf sound right]
    exact .ok (same.extend _ _)

theorem answers_ofPlain (same : Same g s t) (v : Value) :
    Answers g (s.ofPlain v) (t.ofPlain v) := by
  rw [Store.ofPlain, Store.ofPlain]
  cases Chain.ofPlain? v with
  | error f => exact .error f
  | ok cs => exact answers_begin same [] cs

theorem answers_call {call : Call} (same : Same g s t) (sound : Sound s)
    (there : ∀ i ∈ call.nodes, i < s.nodes.size) :
    Answers g (s.call call) (t.call (call.renumbered g.node)) := by
  cases call with
  | create field isOr mate =>
    cases mate with
    | none => exact answers_begin same [] [.start field isOr]
    | some j => exact answers_beside same (there j List.mem_cons_self) _
  | createAmong field isOr nodes => exact answers_begin same nodes [.start field isOr]
  | andField i field | orField i field =>
    exact answers_beside same (there i List.mem_cons_self) _
  | andNode i j =>
    simp only [Call.nodes, List.forall_mem_cons] at there
    exact answers_andNode same sound there.1 there.2.1
  | orNode i j =>
    simp only [Call.nodes, List.forall_mem_cons] at there
    obtain ⟨left, right, _⟩ := there
    simp only [Store.call, Call.renumbered, Store.orNode, same.criterion right]
    exact answers_beside same left _
  | negate i =>
    have inside := there i List.mem_cons_self
    simp only [Store.call, Call.renumbered, Store.negate, same.criterion inside]
    exact .ok (same.update inside)
  | constrain i k =>
    have inside := there i List.mem_cons_self
    simp only [Store.call, Call.renumbered, Store.constrain, same.criterion inside]
    exact answers_update same inside _
  | boostBy i v =>
    have inside := there i List.mem_cons_self
    simp only [Store.call, Call.renumbered, Store.boostBy, same.criterion inside]
    exact answers_update same inside _
  | ofPlain v => exact answers_ofPlain same v

theorem renumbered_eq_ofPlain_iff {call : Call} {f : NodeId → NodeId} {v : Value} :
    call.renumbered f = .ofPlain v ↔ call = .ofPlain v := by
  cases call <;> simp [Call.renumbered]

theorem same_leaving {r q : Except Failure (NodeId × Store)} (left : Option Chain)
    (same : Same g s t) (answers : Answers g r q) :
    (t.leaving left q).1 = (s.leaving left r).1.map g.node ∧
      Same g (s.leaving left r).2 (t.leaving left q).2 := by
  cases answers with
  | ok next => exact ⟨rfl, next⟩
  | error f => exact ⟨rfl, same.littered left⟩

/-- A call change by change has the same outcome on both sides of a gap, and the stores are still
the same but for the gap, also where it is refused on the way. -/
theorem same_steps {call : Call} (same : Same g s t) (sound : Sound s)
    (there : ∀ i ∈ call.nodes, i < s.nodes.size) :
    ((call.renumbered g.node).steps.on t).1 = (call.steps.on s).1.map g.node ∧
      Same g (call.steps.on s).2 ((call.renumbered g.node).steps.on t).2 := by
  have answers := answers_call same sound there
  obtain ⟨left, _, form, outcome⟩ := call.steps_on
  obtain ⟨other, _, form', outcome'⟩ := (call.renumbered g.node).steps_on
  by_cases document : ∃ v, call = .ofPlain v
  · obtain ⟨v, rfl⟩ := document
    rw [Call.renumbered] at answers ⊢
    rw [outcome, outcome]
    exact same_leaving left same answers
  · have none : left = none := form.resolve_right document
    have none' : other = .none := by
      refine form'.resolve_right fun ⟨v, same⟩ => document ⟨v, ?_⟩
      exact renumbered_eq_ofPlain_iff.mp same
    rw [outcome, outcome', none, none']
    exact same_leaving .none same answers

theorem sound_littered {left : Option Chain} (sound : Sound s)
    (held : ∀ cs ∈ left, ∀ c ∈ cs, c.Accepted) : Sound (s.littered left) := by
  cases left with
  | none => exact sound
  | some cs =>
    have empty : Sound (s.withChain []) := sound_withChain sound (by simp)
    exact sound_appendAll empty (by simp) (held cs rfl)

theorem sound_steps {call : Call} (sound : Sound s) (there : ∀ i ∈ call.nodes, i < s.nodes.size) :
    Sound (call.steps.on s).2 := by
  obtain ⟨left, held, _, outcome⟩ := call.steps_on
  rw [outcome]
  cases made : s.call call with
  | error f => exact sound_littered sound held
  | ok r => exact sound_call sound there made

theorem frame_steps (call : Call) : Frame call.Edits s (call.steps.on s).2 := by
  obtain ⟨left, _, _, outcome⟩ := call.steps_on
  have frame := frame_after (s := s) call
  rw [after] at frame
  rw [outcome]
  cases made : s.call call with
  | error f => exact frame_littered left
  | ok r =>
    rw [made] at frame
    exact frame

end Store
end SearchCriteria
