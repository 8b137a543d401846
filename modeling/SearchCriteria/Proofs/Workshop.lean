import SearchCriteria.Proofs.Gaps
import SearchCriteria.Search.Render

/-! Nodes, chains and requests side by side, and calls on any of them, change by change. A call
that is refused leaves all of them as they were, and what it has made by then is not seen by
anything that is done later. -/
namespace SearchCriteria

namespace Search
variable {ν μ φ : Type}

/-- A request with another node in place of the one that it knows. -/
def mapCriteria (f : ν → μ) (s : Search ν φ) : Search μ φ := { s with criteria := s.criteria.map f }

theorem mapCriteria_eq_self {f : ν → ν} {s : Search ν φ} (same : ∀ i ∈ s.criteria, f i = i) :
    s.mapCriteria f = s := by
  obtain ⟨criteria, filter, fields, sort, minScore, indices⟩ := s
  cases criteria with
  | none => rfl
  | some i => rw [mapCriteria, Option.map_some, same i rfl]

theorem criteria_call {s t : Search ν Query} {call : Call} (made : s.call call = .ok t) :
    t.criteria = s.criteria := by
  cases call with
  | fields names | indices names =>
    cases made
    rfl
  | filter arg =>
    cases arg with
    | query q =>
      cases made
      rfl
    | value v =>
      obtain ⟨filter, _, rfl⟩ := map_eq_ok_iff.mp made
      rfl
  | sort field direction =>
    obtain ⟨term, _, rfl⟩ := map_eq_ok_iff.mp made
    rfl
  | minScore score =>
    obtain ⟨negative, _, rest⟩ := bind_eq_ok_iff.mp made
    cases negative with
    | true => cases rest
    | false =>
      cases rest
      rfl

/-- No call looks at the node that a request knows. -/
theorem call_mapCriteria (f : ν → μ) (s : Search ν Query) (call : Call) :
    (s.mapCriteria f).call call = (s.call call).map (mapCriteria f) := by
  cases call with
  | fields names | indices names => rfl
  | filter arg =>
    cases arg with
    | query q => rfl
    | value v =>
      rw [Search.call, Search.call]
      cases filterOf? v with
      | error e => rfl
      | ok filter => rfl
  | sort field direction =>
    rw [Search.call, Search.call, withSort?, withSort?]
    cases sortTerm? field direction with
    | error e => rfl
    | ok term => rfl
  | minScore score =>
    rw [Search.call, Search.call, withMinScore?, withMinScore?]
    cases isNegative? score with
    | error e => rfl
    | ok negative => cases negative <;> rfl

end Search

/-- Changes of a part of a state. -/
def Changes.within {σ τ α : Type} (part : τ → σ) (put : τ → σ → τ) (m : Changes σ α) :
    Changes τ α :=
  ExceptT.mk fun w => ((m.on (part w)).1, put w (m.on (part w)).2)

@[simp] theorem Changes.on_within {σ τ α : Type} {part : τ → σ} {put : τ → σ → τ}
    (m : Changes σ α) (w : τ) :
    (m.within part put).on w = ((m.on (part w)).1, put w (m.on (part w)).2) := rfl

/-- Nodes in their chains, and requests that know some of them. -/
structure Workshop where
  store : Store
  requests : Array (Search NodeId Query)

namespace Workshop

def empty : Workshop := ⟨.empty, #[]⟩

def request (w : Workshop) (k : Nat) : Search NodeId Query := w.requests.getD k default

/-- What is done in a workshop: a builder call, a new request, or a call on a request. -/
inductive Call where
  | build (call : Store.Call)
  | ask (request : Search NodeId Query)
  | adjust (k : Nat) (call : Search.Call)

namespace Call

/-- A call about nodes and requests that there are. -/
def Within (w : Workshop) : Call → Prop
  | .build call => ∀ i ∈ call.nodes, i < w.store.nodes.size
  | .ask request => ∀ i ∈ request.criteria, i < w.store.nodes.size
  | .adjust k _ => k < w.requests.size

def steps : Call → Changes Workshop Unit
  | .build call => do
    let _ ← call.steps.within Workshop.store fun w store => { w with store }
    return ()
  | .ask request => Changes.alter fun w => { w with requests := w.requests.push request }
  | .adjust k call =>
    call.steps.within (·.request k) fun w r => { w with requests := w.requests.setIfInBounds k r }

/-- A call with other numbers for the nodes that it is about. -/
def renumbered (f : NodeId → NodeId) : Call → Call
  | .build call => .build (call.renumbered f)
  | .ask request => .ask (request.mapCriteria f)
  | .adjust k call => .adjust k call

end Call

/-- A call as a whole: the workshop that it makes, unless it is refused. -/
def call (w : Workshop) : Call → Except Failure Workshop
  | .build call => (w.store.call call).map fun r => { w with store := r.2 }
  | .ask request => .ok { w with requests := w.requests.push request }
  | .adjust k call =>
    ((w.request k).call call).map fun r => { w with requests := w.requests.setIfInBounds k r }

/-- The workshop after a call that was made change by change, refused or not. -/
def after (w : Workshop) (call : Call) : Workshop := (call.steps.on w).2

def run (w : Workshop) (calls : List Call) : Workshop := calls.foldl after w

/-- Calls one after the other, each about nodes and requests that there are when its turn comes. -/
def Feasible (w : Workshop) : List Call → Prop
  | [] => True
  | call :: calls => call.Within w ∧ (w.after call).Feasible calls

/-- The workshops that calls lead to, those among them that are refused included. -/
inductive Reachable : Workshop → Prop where
  | empty : Reachable .empty
  | call {w : Workshop} {call : Call} : Reachable w → call.Within w → Reachable (w.after call)

/-- What a compiler makes of the chain of a node. -/
def compiled (w : Workshop) (c : Compiler) (i : NodeId) : Traced (Option Query) :=
  c.compile (w.store.node i).toCriterion (w.store.criteria i)

/-- A request with what it knows of the nodes in place of their numbers. -/
def resolved (w : Workshop) (r : Search NodeId Query) : Search (Criterion × Chain) Query :=
  r.mapCriteria fun i => ((w.store.node i).toCriterion, w.store.criteria i)

/-- What a request is rendered as. -/
def rendered (w : Workshop) (c : Compiler) (k : Nat) : Traced Value :=
  (w.resolved (w.request k)).render c

variable {w v : Workshop} {call : Call} {calls : List Call} {k : Nat}

theorem build_on (call : Store.Call) : (Call.build call).steps.on w =
    ((call.steps.on w.store).1.map fun _ => (), { w with store := (call.steps.on w.store).2 }) := by
  rw [Call.steps, Changes.on_bind, Changes.on_within]
  cases (call.steps.on w.store).1 with
  | error f => rfl
  | ok i => rfl

theorem set_request (w : Workshop) (k : Nat) :
    w.requests.setIfInBounds k (w.request k) = w.requests := by
  apply Array.ext_getElem?
  intro j
  rw [Array.getElem?_setIfInBounds, request, Array.getD_eq_getD_getElem?]
  split
  · rename_i same
    subst same
    split
    · rename_i bound
      rw [Array.getElem?_eq_getElem bound]
      rfl
    · rename_i bound
      rw [Array.getElem?_eq_none (Nat.le_of_not_lt bound)]
  · rfl

theorem adjust_on (k : Nat) (call : Search.Call) : (Call.adjust k call).steps.on w =
    match (w.request k).call call with
    | .ok r => (.ok (), { w with requests := w.requests.setIfInBounds k r })
    | .error f => (.error f, w) := by
  rw [Call.steps, Changes.on_within, Search.Call.steps_on]
  cases (w.request k).call call with
  | ok r => rfl
  | error f => simp only [set_request]

theorem request_push (r : Search NodeId Query) : Workshop.request ⟨w.store, w.requests.push r⟩ k =
    if k = w.requests.size then r else w.request k := getD_push

theorem request_set (there : k < w.requests.size) (j : Nat) (r : Search NodeId Query) :
    Workshop.request ⟨w.store, w.requests.setIfInBounds k r⟩ j =
      if j = k then r else w.request j := getD_set there

/-- A workshop in which the store is sound and requests know nodes that there are. -/
structure Sound (w : Workshop) : Prop where
  store : w.store.Sound
  known (k : Nat) : k < w.requests.size → ∀ i ∈ (w.request k).criteria, i < w.store.nodes.size

theorem sound_after (sound : w.Sound) (within : call.Within w) : (w.after call).Sound := by
  cases call with
  | build call =>
    rw [after, build_on]
    refine ⟨Store.sound_steps sound.store within, fun k bound i member => ?_⟩
    have inside := sound.known k bound i member
    exact Nat.lt_of_lt_of_le inside (Store.frame_steps call).nodes
  | ask request =>
    refine ⟨sound.store, fun k bound i member => ?_⟩
    have size : k < w.requests.size + 1 := by simpa [after, Call.steps] using bound
    have known : i ∈ (if k = w.requests.size then request else w.request k).criteria := by
      rw [← request_push]
      exact member
    split at known
    · exact within i known
    · exact sound.known k (by omega) i known
  | adjust k call =>
    rw [after, adjust_on]
    cases made : (w.request k).call call with
    | error f => exact sound
    | ok r =>
      refine ⟨sound.store, fun j bound i member => ?_⟩
      have known : i ∈ (w.request j).criteria := by
        rw [request_set within] at member
        split at member
        · rename_i this
          rw [this, ← Search.criteria_call made]
          exact member
        · exact member
      exact sound.known j (by simpa using bound) i known

theorem sound_of_reachable (reached : Reachable w) : w.Sound := by
  induction reached with
  | empty => exact ⟨Store.sound_empty, fun k bound => absurd bound (Nat.not_lt_zero k)⟩
  | call _ within ih => exact sound_after ih within

/-- Workshops that are the same but for a gap in the store of the second. -/
structure Same (g : Store.Gap) (w v : Workshop) : Prop where
  store : Store.Same g w.store v.store
  requests : v.requests = w.requests.map (·.mapCriteria g.node)

variable {g : Store.Gap}

theorem Same.request (same : Same g w v) (k : Nat) :
    v.request k = (w.request k).mapCriteria g.node := by
  have none : (default : Search NodeId Query).mapCriteria g.node = default := rfl
  rw [Workshop.request, Workshop.request, same.requests, Array.getD_eq_getD_getElem?,
    Array.getD_eq_getD_getElem?, Array.getElem?_map]
  cases w.requests[k]? with
  | none => exact none.symm
  | some r => rfl

theorem Same.after (same : Same g w v) (sound : w.Sound) (within : call.Within w) :
    ((call.renumbered g.node).steps.on v).1 = (call.steps.on w).1 ∧
      Same g (w.after call) (v.after (call.renumbered g.node)) := by
  cases call with
  | build call =>
    obtain ⟨outcome, store⟩ := Store.same_steps same.store sound.store within
    rw [Workshop.after, Workshop.after, Call.renumbered, build_on, build_on, outcome]
    refine ⟨?_, store, same.requests⟩
    cases (call.steps.on w.store).1 with
    | error f => rfl
    | ok i => rfl
  | ask request =>
    refine ⟨rfl, same.store, ?_⟩
    simp [Workshop.after, Call.renumbered, Call.steps, same.requests]
  | adjust k call =>
    rw [Workshop.after, Workshop.after, Call.renumbered, adjust_on, adjust_on, same.request,
      Search.call_mapCriteria]
    cases (w.request k).call call with
    | error f => exact ⟨rfl, same⟩
    | ok r =>
      refine ⟨rfl, same.store, ?_⟩
      simp [Except.map, same.requests]

/-- What one call keeps is kept by a run of calls. -/
theorem Same.run (same : Same g w v) (sound : w.Sound) (feasible : w.Feasible calls) :
    (w.run calls).Sound ∧ Same g (w.run calls) (v.run (calls.map (·.renumbered g.node))) := by
  induction calls generalizing w v with
  | nil => exact ⟨sound, same⟩
  | cons call calls ih =>
    exact ih (same.after sound feasible.1).2 (sound_after sound feasible.1) feasible.2

theorem Same.compiled (same : Same g w v) (sound : w.Sound) (c : Compiler) {i : Nat}
    (there : i < w.store.nodes.size) : v.compiled c (g.node i) = w.compiled c i := by
  obtain ⟨node, chain⟩ := same.store.criteria sound.store there
  rw [Workshop.compiled, Workshop.compiled, node, chain]

theorem Same.rendered (same : Same g w v) (sound : w.Sound) (c : Compiler)
    (there : k < w.requests.size) : v.rendered c k = w.rendered c k := by
  have resolved : v.resolved (v.request k) = w.resolved (w.request k) := by
    rw [same.request]
    cases known : (w.request k).criteria with
    | none => simp [Workshop.resolved, Search.mapCriteria, known]
    | some i =>
      obtain ⟨node, chain⟩ := same.store.criteria sound.store (sound.known k there i known)
      simp [Workshop.resolved, Search.mapCriteria, known, node, chain]
  rw [Workshop.rendered, Workshop.rendered, resolved]

/-- The most that a refused call leaves is a chain in the store that nothing knows. -/
theorem steps_of_refused {f : Failure} (refused : w.call call = .error f) :
    ∃ left, call.steps.on w = (.error f, ⟨w.store.littered left, w.requests⟩) := by
  cases call with
  | build call =>
    obtain ⟨left, _, _, outcome⟩ := call.steps_on
    refine ⟨left, ?_⟩
    rw [build_on, outcome, map_eq_error_iff.mp refused]
    rfl
  | ask request => cases refused
  | adjust k call =>
    refine ⟨none, ?_⟩
    rw [adjust_on, map_eq_error_iff.mp refused]
    rfl

/-- A call that is not refused makes, change by change, what it makes as a whole. -/
theorem steps_of_made (made : w.call call = .ok v) : call.steps.on w = (.ok (), v) := by
  cases call with
  | build call =>
    obtain ⟨left, _, _, outcome⟩ := call.steps_on
    obtain ⟨r, built, rfl⟩ := map_eq_ok_iff.mp made
    rw [build_on, outcome, built]
    rfl
  | ask request =>
    cases made
    rfl
  | adjust k call =>
    obtain ⟨r, adjusted, rfl⟩ := map_eq_ok_iff.mp made
    rw [adjust_on, adjusted]

/-- A workshop is the same as it is with a chain in its store that nothing knows. -/
theorem same_of_littered (sound : w.Sound) (left : Option Chain) :
    ∃ g : Store.Gap, (∀ i < w.store.nodes.size, g.node i = i) ∧
      Same g w ⟨w.store.littered left, w.requests⟩ := by
  obtain ⟨g, old, store⟩ := Store.same_littered sound.store left
  refine ⟨g, old, store, ?_⟩
  apply Array.ext_getElem?
  intro k
  rw [Array.getElem?_map]
  by_cases bound : k < w.requests.size
  · have known := sound.known k bound
    have found : w.requests[k]? = some (w.request k) := by
      simp [request, Array.getD_eq_getD_getElem?, bound]
    rw [found, Option.map_some, Search.mapCriteria_eq_self fun i member => old i (known i member)]
  · rw [Array.getElem?_eq_none (Nat.le_of_not_lt bound), Option.map_none]

/-- A call that is refused changes nothing: all nodes, chains and requests are what they were. All
that is done later comes to the same, as if the call had not been made, but that new nodes may have
other numbers: the same calls are refused, and what is compiled and rendered is the same. -/
theorem refused_call_changes_nothing {f : Failure} (reached : Reachable w)
    (refused : w.call call = .error f) :
    (call.steps.on w).1 = .error f ∧
    (∀ i < w.store.nodes.size, (w.after call).store.node i = w.store.node i) ∧
    (∀ d < w.store.chains.size, (w.after call).store.members d = w.store.members d) ∧
    (w.after call).requests = w.requests ∧
    ∃ number : NodeId → NodeId, (∀ i < w.store.nodes.size, number i = i) ∧
      ∀ later, w.Feasible later →
        let u := w.run later
        let v := (w.after call).run (later.map (·.renumbered number))
        (∀ next : Call, next.Within u →
          ((next.renumbered number).steps.on v).1 = (next.steps.on u).1) ∧
        (∀ c, ∀ i < u.store.nodes.size, v.compiled c (number i) = u.compiled c i) ∧
        ∀ c, ∀ k < u.requests.size, v.rendered c k = u.rendered c k := by
  have sound := sound_of_reachable reached
  obtain ⟨left, outcome⟩ := steps_of_refused refused
  obtain ⟨g, old, same⟩ := same_of_littered sound left
  rw [after, outcome]
  refine ⟨rfl, ?_, ?_, rfl, g.node, old, ?_⟩
  · intro i bound
    exact Store.node_littered left bound
  · intro d known
    exact Store.members_littered left known
  · intro later feasible u v
    obtain ⟨still, alike⟩ := same.run sound feasible
    refine ⟨fun next within => ?_, fun c i bound => ?_, fun c k bound => ?_⟩
    · exact (alike.after still within).1
    · exact alike.compiled still c bound
    · exact alike.rendered still c bound

theorem reachable_run (reached : Reachable w) (feasible : w.Feasible calls) :
    Reachable (w.run calls) := by
  induction calls generalizing w with
  | nil => exact reached
  | cons call calls ih => exact ih (.call reached feasible.1) feasible.2

/-- A document of two nodes, the second of which is no map, is refused when its first node has been
made. That node stays in the store, and requests are rendered as before. -/
theorem refused_call_changes_nothing_sample :
    let calls := [Call.build (.create (.text "name") false none),
      .build (.constrain 0 (.equals (.text "x"))), .ask ⟨some 0, none, [], [], .null, []⟩,
      .adjust 0 (.minScore (.int 0))]
    let call := Call.build (.ofPlain (.list [.map [(.text "field", .text "rate")], .null]))
    (run empty calls).call call = .error (.criteria (.nodeNotMap .null)) ∧
      ((run empty calls).after call).store.nodes.size = 2 ∧
      ∀ c, ((run empty calls).after call).rendered c 0 = (run empty calls).rendered c 0 := by
  intro calls call
  have feasible : empty.Feasible calls := by
    refine ⟨?_, ?_, ?_, ?_, trivial⟩
    · exact nofun
    · exact List.forall_mem_singleton.mpr (by decide)
    · rintro i ⟨⟩
      decide
    · exact Nat.zero_lt_one
  have refused : (run empty calls).call call = .error (.criteria (.nodeNotMap .null)) := rfl
  obtain ⟨_, _, _, _, number, _, later⟩ :=
    refused_call_changes_nothing (reachable_run .empty feasible) refused
  exact ⟨refused, rfl, fun c => (later [] trivial).2.2 c 0 Nat.zero_lt_one⟩

end Workshop
end SearchCriteria
