import Mathlib.Logic.Relation
import SearchCriteria.Compiler.Basic
import SearchCriteria.Proofs.Frame

/-! Nodes that were made out of one another. A new node takes the chain of the node that it is made
out of, no later call parts the two, and so it does not matter which of them is compiled. -/
namespace SearchCriteria
namespace Store
variable {s t : Store} {m n : NodeId} {xs ys calls : List Call}

theorem run_append : s.run (xs ++ ys) = (s.run xs).run ys := List.foldl_append

theorem feasible_append : s.Feasible (xs ++ ys) ↔ s.Feasible xs ∧ (s.run xs).Feasible ys := by
  induction xs generalizing s with
  | nil => exact (and_iff_right trivial).symm
  | cons call xs ih =>
    have rest : (s.after call).Feasible (xs ++ ys) ↔ _ := ih
    simp only [List.cons_append, Feasible, rest, and_assoc]
    exact .rfl

/-- The node that a call makes a new one out of. -/
def Call.parent? : Call → Option NodeId
  | .andField i _ | .orField i _ | .orNode i _ => some i
  | _ => none

theorem Call.mem_nodes_of_parent? {call : Call} (parent : call.parent? = some n) :
    n ∈ call.nodes := by
  cases call with
  | andField i field | orField i field | orNode i j =>
    cases parent
    exact List.mem_cons_self
  | _ => contradiction

/-- A node that is made out of another one is new and knows the chain of the other one. -/
theorem chain_of_call {call : Call} (parent : call.parent? = some n)
    (made : s.call call = .ok (m, t)) :
    m = s.nodes.size ∧ m < t.nodes.size ∧ (t.node m).chain = (s.node n).chain := by
  have appended {c : Criterion} (new : s.append (s.node n).chain c = (m, t)) :
      m = s.nodes.size ∧ m < t.nodes.size ∧ (t.node m).chain = (s.node n).chain := by
    have last : m = s.nodes.size := (congrArg Prod.fst new).symm
    have grown : t = (s.append (s.node n).chain c).2 := (congrArg Prod.snd new).symm
    rw [grown, size_append, node_append, if_pos last]
    exact ⟨last, last ▸ Nat.lt_succ_self _, rfl⟩
  cases call with
  | andField i field | orField i field | orNode i j =>
    cases parent
    exact appended (Except.ok.inj made)
  | _ => contradiction

/-- Whether a run of calls makes the second node out of the first, in one of its calls. -/
def Makes (calls : List Call) (n m : NodeId) : Prop :=
  ∃ before call after t, calls = before ++ call :: after ∧ call.parent? = some n ∧
    (run empty before).call call = .ok (m, t)

/-- Whether a run of calls makes the second node out of the first, in one or more of its calls. -/
def Descends (calls : List Call) (n m : NodeId) : Prop := Relation.TransGen (Makes calls) n m

/-- What knows the same chain at the moment of a call does so after all calls that follow. -/
theorem chain_of_makes (feasible : empty.Feasible calls) (makes : Makes calls n m) :
    n < (run empty calls).nodes.size ∧ m < (run empty calls).nodes.size ∧
      ((run empty calls).node m).chain = ((run empty calls).node n).chain := by
  obtain ⟨before, call, after, t, rfl, parent, made⟩ := makes
  obtain ⟨_, there, _⟩ := feasible_append.mp feasible
  have old := there n (Call.mem_nodes_of_parent? parent)
  obtain ⟨_, new, same⟩ := chain_of_call parent made
  have next : (run empty before).after call = t := by
    rw [Store.after, made]
  have later : run empty (before ++ call :: after) = t.run after := by
    rw [run_append, ← next]
    rfl
  -- The call hands on the chain. That no node gets another one later is up to the calls after it.
  have first := frame_after (s := run empty before) call
  rw [next] at first
  have rest := frame_run (s := t) after
  have still := Nat.lt_of_lt_of_le old first.nodes
  rw [later]
  refine ⟨Nat.lt_of_lt_of_le still rest.nodes, Nat.lt_of_lt_of_le new rest.nodes, ?_⟩
  rw [rest.chain m new, rest.chain n still, first.chain n old, same]

theorem chain_of_descends (feasible : empty.Feasible calls) (descends : Descends calls n m) :
    n < (run empty calls).nodes.size ∧ m < (run empty calls).nodes.size ∧
      ((run empty calls).node m).chain = ((run empty calls).node n).chain := by
  induction descends with
  | single makes => exact chain_of_makes feasible makes
  | tail _ makes ih =>
    obtain ⟨_, new, last⟩ := chain_of_makes feasible makes
    exact ⟨ih.1, new, last.trans ih.2.2⟩

/-- What a node lists at a moment of a run is the beginning of what it lists at the end. -/
theorem chainOf_prefix_run {later : List Call} (feasible : s.Feasible (xs ++ later))
    (sound : Sound s) (there : n < (s.run xs).nodes.size) :
    (s.run xs).chainOf n <+: (s.run (xs ++ later)).chainOf n := by
  rw [run_append]
  exact (frame_run later).chainOf (sound_run sound (feasible_append.mp feasible).1) there

/-- Of the node that it is handed a chain in by, a compiler only asks whether it says anything. -/
theorem compile_eq_of_said {node other : Criterion} (c : Compiler) (chain : Chain)
    (said : node.entries ≠ []) (also : other.entries ≠ []) :
    c.compile node chain = c.compile other chain := by
  have left : node.entries.isEmpty = false := by simpa using said
  have right : other.entries.isEmpty = false := by simpa using also
  simp only [Compiler.compile, Compiler.clauses, left, right]

/-- Whatever calls there were, a node and one that was made out of it know one chain, and both are
listed in it. All that either listed at an earlier moment is still there, in its order and at the
beginning. Either can be compiled in the place of the other, if both say something. -/
theorem chain_shared_by_descent (calls : List Call) (feasible : empty.Feasible calls)
    (n m : NodeId) (descends : Descends calls n m) :
    let s := run empty calls
    (s.node m).chain = (s.node n).chain ∧ s.chainOf m = s.chainOf n ∧
    n ∈ s.chainOf n ∧ m ∈ s.chainOf n ∧
    (∀ before after, calls = before ++ after → ∀ k, k = n ∨ k = m →
      k < (run empty before).nodes.size → (run empty before).chainOf k <+: s.chainOf n) ∧
    ∀ c : Compiler, (s.node n).entries ≠ [] → (s.node m).entries ≠ [] →
      c.compile (s.node m).toCriterion (s.criteria m) =
        c.compile (s.node n).toCriterion (s.criteria n) := by
  intro s
  have sound : Sound s := sound_run sound_empty feasible
  obtain ⟨old, new, same⟩ := chain_of_descends feasible descends
  have shared : s.chainOf m = s.chainOf n := congrArg s.members same
  have listed := sound.listed m new
  rw [shared] at listed
  refine ⟨same, shared, sound.listed n old, listed, ?_, ?_⟩
  · rintro before after rfl k kin there
    have grown := chainOf_prefix_run feasible sound_empty there
    rcases kin with rfl | rfl
    · exact grown
    · exact shared ▸ grown
  · intro c saidOld saidNew
    have criteria : s.criteria m = s.criteria n := by rw [Store.criteria, Store.criteria, shared]
    rw [criteria]
    exact compile_eq_of_said c _ saidNew saidOld

/-- A chain that was merged into another one before its second node was copied into it, and that
takes the other one over in the end. -/
def kindredCalls : List Call :=
  [.create (.text "rate") false none, .constrain 0 (.equals (.int 1)), .andField 0 (.text "type"),
    .create (.text "name") false none, .constrain 2 (.fuzzy (.text "inn")), .andNode 2 0,
    .orNode 1 2, .andNode 0 2]

theorem chain_shared_by_descent_sample :
    empty.Feasible kindredCalls ∧ Descends kindredCalls 0 3 ∧
      (run empty kindredCalls).chainOf 0 = [0, 1, 3, 2, 0, 1] ∧
      (run empty kindredCalls).chainOf 3 = (run empty kindredCalls).chainOf 0 ∧
      let s := run empty kindredCalls
      ∀ c : Compiler, c.compile (s.node 3).toCriterion (s.criteria 3) =
        c.compile (s.node 0).toCriterion (s.criteria 0) := by
  have feasible : empty.Feasible kindredCalls := by decide
  have first : Makes kindredCalls 0 1 :=
    ⟨kindredCalls.take 2, .andField 0 (.text "type"), kindredCalls.drop 3, _, rfl, rfl, rfl⟩
  have second : Makes kindredCalls 1 3 :=
    ⟨kindredCalls.take 6, .orNode 1 2, kindredCalls.drop 7, _, rfl, rfl, rfl⟩
  have descends : Descends kindredCalls 0 3 := .tail (.single first) second
  obtain ⟨_, shared, _, _, _, compiled⟩ :=
    chain_shared_by_descent kindredCalls feasible 0 3 descends
  have said : ((run empty kindredCalls).node 0).entries ≠ [] := by decide
  have copied : ((run empty kindredCalls).node 3).entries ≠ [] := by decide
  exact ⟨feasible, descends, by decide, shared, fun c => compiled c said copied⟩

end Store
end SearchCriteria
