import SearchCriteria.Proofs.Store
import SearchCriteria.Search.Basic

/-! Builder calls as the changes that they make, one after the other. What has been changed before
a refusal stays changed, so that the order of checks and changes shows. In this order every call
comes to what it comes to as a whole, and what it has done by the time it is refused is a new chain
at most, which nothing else knows. -/
namespace SearchCriteria

/-- Changes of a state, up to the first refusal. -/
abbrev Changes (σ α : Type) := ExceptT Failure (StateM σ) α

namespace Changes
variable {σ τ α β : Type} {s : σ}

/-- What comes of changes in a state, and the state after them. -/
def on (m : Changes σ α) (s : σ) : Except Failure α × σ := StateT.run (ExceptT.run m) s

def refuse (f : Failure) : Changes σ α := throw f

def ofExcept (r : Except Failure α) : Changes σ α := MonadExcept.ofExcept r

def alter (f : σ → σ) : Changes σ Unit := modify f

@[simp] theorem on_pure (a : α) : (pure a : Changes σ α).on s = (.ok a, s) := rfl

@[simp] theorem on_refuse (f : Failure) : (refuse f : Changes σ α).on s = (.error f, s) := rfl

@[simp] theorem on_ofExcept (r : Except Failure α) : (ofExcept r).on s = (r, s) := by
  cases r <;> rfl

@[simp] theorem on_alter (f : σ → σ) : (alter f).on s = (.ok (), f s) := rfl

@[simp] theorem on_get : (get : Changes σ σ).on s = (.ok s, s) := rfl

theorem on_bind (m : Changes σ α) (k : α → Changes σ β) : (m >>= k).on s =
    match m.on s with
    | (.ok a, t) => (k a).on t
    | (.error f, t) => (.error f, t) := by
  change (match m.on s with
    | (r, t) => StateT.run (ExceptT.bindCont k r) t) = _
  cases m.on s with
  | mk r t => cases r <;> rfl

theorem on_bind_ok {m : Changes σ α} {k : α → Changes σ β} {a : α} {t : σ}
    (first : m.on s = (.ok a, t)) : (m >>= k).on s = (k a).on t := by rw [on_bind, first]

theorem on_bind_error {m : Changes σ α} {k : α → Changes σ β} {f : Failure} {t : σ}
    (first : m.on s = (.error f, t)) : (m >>= k).on s = (.error f, t) := by rw [on_bind, first]

end Changes

namespace Store

namespace Steps

/-- A new chain that lists nodes. -/
def newChain (nodes : List NodeId) : Changes Store ChainId := do
  let s ← get
  Changes.alter (·.withChain nodes)
  return s.chains.size

/-- A node at the end of a chain that asks for nothing so far. -/
def newNode (chain : ChainId) (field : Value) (isOr : Bool) : Changes Store NodeId := do
  let s ← get
  Changes.alter fun s => (s.append chain (.start field isOr)).2
  return s.nodes.size

def edit (i : NodeId) (f : Criterion → Criterion) : Changes Store Unit :=
  Changes.alter fun s => s.update i (f (s.node i).toCriterion)

def constrain (i : NodeId) (k : Constraint) : Changes Store Unit := do
  let e ← Changes.ofExcept k.entry?
  edit i (·.withEntry e)

def boostBy (i : NodeId) (v : Value) : Changes Store Unit := do
  let boost ← Changes.ofExcept (Criterion.boostOf? v)
  edit i fun c => { c with boost }

def andNode (i j : NodeId) : Changes Store NodeId := do
  let s ← get
  if (s.node j).chain = (s.node i).chain then Changes.refuse (.criteria .alreadyInChain)
  else
    Changes.alter (·.extend (s.node i).chain (s.chainOf j))
    return i

/-- A copy of a node is a new one on its field, which is then told what the node says. -/
def orNode (i j : NodeId) : Changes Store NodeId := do
  let s ← get
  let other := (s.node j).toCriterion
  let k ← newNode (s.node i).chain other.field true
  edit k fun c => { c with entries := c.entries ++ other.entries }
  edit k fun c => { c with boost := other.boost }
  edit k fun c => { c with negating := other.negating }
  return k

def addPlain (i : NodeId) (e : Value) : Changes Store Unit := do
  let (op, es) ← Changes.ofExcept (Criterion.operationOf? e)
  match (Entries.named? "value" es).getD .null with
  | .null => edit i (·.withEntry ⟨op, .null⟩)
  | v => do
    let k ← Changes.ofExcept (Constraint.ofOperation? op v)
    constrain i k

def addBoost (i : NodeId) : Value → Changes Store Unit
  | .null => pure ()
  | v => boostBy i v

/-- A node is told what its map in a document says. -/
def fill (es : Entries) (i : NodeId) : Changes Store Unit := do
  let entries ← Changes.ofExcept (Criterion.entriesOf? es)
  entries.forM (addPlain i)
  addBoost i ((Entries.named? "boost" es).getD .null)
  edit i fun c => if ((Entries.named? "negating" es).getD .null).truthy then c.negated else c

def addNode (chain : ChainId) : Value → Changes Store NodeId
  | .map es => do
    let i ← newNode chain ((Entries.named? "field" es).getD .null)
      ((Entries.named? "or" es).getD .null).truthy
    fill es i
    return i
  | v => Changes.refuse (.quoting v (.criteria (.nodeNotMap v)))

def addNodes (chain : ChainId) : List Value → Changes Store NodeId
  | [] => do return (← get).nodes.size
  | [v] => addNode chain v
  | v :: vs => do
    discard (addNode chain v)
    addNodes chain vs

/-- A document is gone through node by node, and a node entry by entry. -/
def ofPlain (v : Value) : Changes Store NodeId := do
  let nodes := match v with
    | .list nodes => nodes
    | node => [node]
  if nodes.isEmpty then Changes.refuse (.criteria .emptyChain)
  else
    let chain ← newChain []
    addNodes chain nodes

end Steps

/-- A builder call, change by change. -/
def Call.steps : Call → Changes Store NodeId
  | .create field isOr none => do Steps.newNode (← Steps.newChain []) field isOr
  | .create field isOr (some j) => do Steps.newNode ((← get).node j).chain field isOr
  | .createAmong field isOr nodes => do Steps.newNode (← Steps.newChain nodes) field isOr
  | .andField i field => do Steps.newNode ((← get).node i).chain field false
  | .orField i field => do Steps.newNode ((← get).node i).chain field true
  | .andNode i j => Steps.andNode i j
  | .orNode i j => Steps.orNode i j
  | .constrain i k => do Steps.constrain i k; return i
  | .negate i => do Steps.edit i Criterion.negated; return i
  | .boostBy i v => do Steps.boostBy i v; return i
  | .ofPlain v => Steps.ofPlain v

/-- A store with the beginning of a chain that nothing else knows, if there is one. -/
def littered (s : Store) : Option Chain → Store
  | none => s
  | some cs => ((s.withChain []).appendAll s.chains.size cs).2

/-- What comes of a call, and the store after it, when a refusal leaves something behind. -/
def leaving (s : Store) (left : Option Chain) :
    Except Failure (NodeId × Store) → Except Failure NodeId × Store
  | .ok (i, t) => (.ok i, t)
  | .error f => (.error f, s.littered left)

section Steps
variable {s : Store} {i chain : Nat} {c : Criterion}

theorem update_append (d : Criterion) :
    (s.append chain c).2.update s.nodes.size d = (s.append chain d).2 := by
  have nodes : (s.nodes.push { c with chain }).modify s.nodes.size
      (fun n => { d with chain := n.chain }) = s.nodes.push { d with chain } := by
    apply Array.ext_getElem?
    intro k
    rw [Array.getElem?_modify, Array.getElem?_push, Array.getElem?_push]
    by_cases last : s.nodes.size = k
    · simp [last]
    · have other : ¬ k = s.nodes.size := fun same => last same.symm
      simp [last, other]
  simp [update, append, extend, nodes]

theorem edit_append (f : Criterion → Criterion) :
    (Steps.edit s.nodes.size f).on (s.append chain c).2 = (.ok (), (s.append chain (f c)).2) := by
  rw [Steps.edit, Changes.on_alter, update_append, node_append, if_pos rfl]

theorem newNode_on (field : Value) (isOr : Bool) : (Steps.newNode chain field isOr).on s =
    (.ok s.nodes.size, (s.append chain (.start field isOr)).2) := rfl

theorem newChain_on (nodes : List NodeId) :
    (Steps.newChain nodes).on s = (.ok s.chains.size, s.withChain nodes) := rfl

/-- Changes of the node that was added last, which come to what a function makes of its criterion.
By the time they are refused the node may have become another one. -/
def Grows (m : NodeId → Changes Store Unit) (f : Criterion → Except Failure Criterion) : Prop :=
  ∀ c : Criterion, c.Accepted → (∀ d, f c = .ok d → d.Accepted) ∧
    ∃ left : Criterion, left.Accepted ∧ ∀ (s : Store) chain,
      (m s.nodes.size).on (s.append chain c).2 = match f c with
        | .ok d => (.ok (), (s.append chain d).2)
        | .error e => (.error e, (s.append chain left).2)

theorem grows_edit {f : Criterion → Criterion} (held : ∀ c, c.Accepted → (f c).Accepted) :
    Grows (Steps.edit · f) fun c => .ok (f c) := by
  intro c accepted
  refine ⟨?_, c, accepted, fun s chain => edit_append f⟩
  rintro _ ⟨⟩
  exact held c accepted

theorem grows_ofExcept {α : Type} {r : Except Failure α} {m : α → NodeId → Changes Store Unit}
    {f : α → Criterion → Except Failure Criterion} (each : ∀ a, r = .ok a → Grows (m a) (f a)) :
    Grows (fun i => Changes.ofExcept r >>= fun a => m a i) fun c => r >>= fun a => f a c := by
  intro c accepted
  cases r with
  | error e => exact ⟨nofun, c, accepted, fun s chain => rfl⟩
  | ok a => exact each a rfl c accepted

theorem Grows.andThen {m n : NodeId → Changes Store Unit}
    {f g : Criterion → Except Failure Criterion} (first : Grows m f) (second : Grows n g) :
    Grows (fun i => m i >>= fun _ => n i) fun c => f c >>= g := by
  intro c accepted
  obtain ⟨held, left, leftHeld, there⟩ := first c accepted
  dsimp only
  cases made : f c with
  | error e =>
    refine ⟨by rintro d ⟨⟩, left, leftHeld, fun s chain => ?_⟩
    apply Changes.on_bind_error
    rw [there, made]
  | ok d =>
    obtain ⟨kept, rest, restHeld, here⟩ := second d (held d made)
    refine ⟨kept, rest, restHeld, fun s chain => ?_⟩
    have begun : (m s.nodes.size).on (s.append chain c).2 = (.ok (), (s.append chain d).2) := by
      rw [there, made]
    rw [Changes.on_bind_ok begun]
    exact here s chain

theorem grows_forM {α : Type} {m : NodeId → α → Changes Store Unit}
    {f : Criterion → α → Except Failure Criterion}
    (each : ∀ x, Grows (m · x) (f · x)) (xs : List α) :
    Grows (fun i => xs.forM (m i)) fun c => xs.foldlM f c := by
  induction xs with
  | nil => exact fun c accepted => ⟨by rintro _ ⟨⟩; exact accepted, c, accepted, fun s chain => rfl⟩
  | cons x xs ih => exact (each x).andThen ih

theorem grows_constrain (k : Constraint) : Grows (Steps.constrain · k) (·.constrain? k) := by
  have steps := grows_ofExcept (r := k.entry?) fun e made =>
    grows_edit fun c held => Criterion.accepted_withEntry held (Constraint.accepted_of_entry? made)
  simp only [bind_ok_comp] at steps
  exact steps

theorem grows_boostBy (v : Value) : Grows (Steps.boostBy · v) (·.boostBy? v) := by
  have accepted {c : Criterion} {x : Binary64} (held : c.Accepted)
      (made : Criterion.boostOf? v = .ok x) : Criterion.Accepted { c with boost := x } :=
    ⟨held.entries, Criterion.isNegative_of_boostOf? made⟩
  have steps := grows_ofExcept (r := Criterion.boostOf? v) fun x made =>
    grows_edit fun c held => accepted held made
  simp only [bind_ok_comp] at steps
  exact steps

theorem grows_addBoost (v : Value) : Grows (Steps.addBoost · v) (·.addBoost? v) := by
  cases v with
  | null => exact fun c accepted =>
      ⟨by rintro _ ⟨⟩; exact accepted, c, accepted, fun s chain => rfl⟩
  | _ => exact grows_boostBy _

theorem grows_addPlain (e : Value) : Grows (Steps.addPlain · e) (·.addPlain? e) := by
  refine grows_ofExcept fun ⟨op, es⟩ _ => ?_
  dsimp only
  cases (Entries.named? "value" es).getD .null with
  | null =>
    exact grows_edit fun c held => Criterion.accepted_withEntry held (Entry.accepted_null op)
  | _ => exact grows_ofExcept fun k _ => grows_constrain k

/-- What filling a node comes to, for a criterion that asks for nothing so far. -/
def filled? (es : Entries) (c : Criterion) : Except Failure Criterion := do
  let c ← (← Criterion.entriesOf? es).foldlM Criterion.addPlain? c
  let c ← c.addBoost? ((Entries.named? "boost" es).getD .null)
  .ok (if ((Entries.named? "negating" es).getD .null).truthy then c.negated else c)

theorem grows_fill (es : Entries) : Grows (Steps.fill es) (filled? es) := by
  refine grows_ofExcept fun entries _ => ?_
  refine (grows_forM grows_addPlain entries).andThen ((grows_addBoost _).andThen ?_)
  refine grows_edit fun c held => ?_
  split
  · exact Criterion.accepted_negated held
  · exact held

/-- Of a node of a document there is a new node in the chain, or nothing more than one. -/
theorem addNode_on (v : Value) : ∃ left : Chain, (∀ c ∈ left, c.Accepted) ∧ ∀ (s : Store) chain,
    (Steps.addNode chain v).on s = match Criterion.ofPlain? v with
      | .ok c => (.ok s.nodes.size, (s.append chain c).2)
      | .error f => (.error f, (s.appendAll chain left).2) := by
  cases v with
  | map es =>
    let fresh := Criterion.start ((Entries.named? "field" es).getD .null)
      ((Entries.named? "or" es).getD .null).truthy
    obtain ⟨_, left, held, there⟩ := grows_fill es fresh (Criterion.accepted_start _ _)
    have same : Criterion.ofPlain? (.map es) = filled? es fresh := rfl
    refine ⟨[left], List.forall_mem_singleton.mpr held, fun s chain => ?_⟩
    specialize there s chain
    rw [Steps.addNode, Changes.on_bind_ok (newNode_on _ _), same]
    cases made : filled? es fresh with
    | error f =>
      rw [made] at there
      exact Changes.on_bind_error there
    | ok c =>
      rw [made] at there
      exact Changes.on_bind_ok there
  | _ => exact ⟨[], nofun, fun s chain => rfl⟩

theorem addNodes_on (vs : List Value) : ∃ left : Chain, (∀ c ∈ left, c.Accepted) ∧
    ∀ (s : Store) chain, (Steps.addNodes chain vs).on s = match vs.mapM Criterion.ofPlain? with
      | .ok cs => (.ok (s.appendAll chain cs).1, (s.appendAll chain cs).2)
      | .error f => (.error f, (s.appendAll chain left).2) := by
  induction vs with
  | nil => exact ⟨[], nofun, fun s chain => rfl⟩
  | cons v vs ih =>
    obtain ⟨first, firstHeld, here⟩ := addNode_on v
    obtain ⟨rest, restHeld, there⟩ := ih
    simp only [List.mapM_cons]
    cases made : Criterion.ofPlain? v with
    | error f =>
      refine ⟨first, firstHeld, fun s chain => ?_⟩
      have begun : (Steps.addNode chain v).on s = (.error f, (s.appendAll chain first).2) := by
        rw [here, made]
      cases vs with
      | nil => exact begun
      | cons w vs => exact Changes.on_bind_error (Changes.on_bind_error begun)
    | ok c =>
      have begun (s : Store) (chain : ChainId) :
          (Steps.addNode chain v).on s = (.ok s.nodes.size, (s.append chain c).2) := by
        rw [here, made]
      refine ⟨c :: rest, List.forall_mem_cons.mpr ⟨Criterion.accepted_ofPlain? made, restHeld⟩,
        fun s chain => ?_⟩
      cases vs with
      | nil => exact begun s chain
      | cons w vs =>
        have next : (discard (Steps.addNode chain v)).on s = (.ok (), (s.append chain c).2) :=
          Changes.on_bind_ok (begun s chain)
        rw [Steps.addNodes, Changes.on_bind_ok next, there]
        · cases others : (w :: vs).mapM Criterion.ofPlain? with
          | error f => rw [appendAll_cons]; rfl
          | ok cs =>
            cases cs with
            | nil => exact nomatch mapM_eq_ok_iff.mp others
            | cons d cs => rfl
        · exact List.cons_ne_nil w vs

theorem ofPlain_on (v : Value) : ∃ left : Option Chain, (∀ cs ∈ left, ∀ c ∈ cs, c.Accepted) ∧
    ∀ s : Store, (Steps.ofPlain v).on s = s.leaving left (s.ofPlain v) := by
  -- A list without nodes is refused before there is a chain, and any other document after that.
  have begun (vs : List Value) (full : vs.isEmpty = false) {described : Except Failure Chain}
      (same : described = vs.mapM Criterion.ofPlain?) :
      ∃ left : Option Chain, (∀ cs ∈ left, ∀ c ∈ cs, c.Accepted) ∧ ∀ s : Store,
        (if vs.isEmpty then Changes.refuse (.criteria .emptyChain)
          else Steps.newChain [] >>= fun chain => Steps.addNodes chain vs : Changes Store _).on s =
          s.leaving left (described.map fun cs => (s.withChain []).appendAll s.chains.size cs) := by
    obtain ⟨left, held, there⟩ := addNodes_on vs
    refine ⟨some left, by simpa using held, fun s => ?_⟩
    rw [full, if_neg Bool.false_ne_true, Changes.on_bind_ok (newChain_on []), there, same]
    cases vs.mapM Criterion.ofPlain? with
    | error f => rfl
    | ok cs => rfl
  have single (node : Value) :
      (Criterion.ofPlain? node).map ([·]) = [node].mapM Criterion.ofPlain? := by
    rw [List.mapM_cons, List.mapM_nil]
    cases Criterion.ofPlain? node with
    | error f => rfl
    | ok c => rfl
  cases v with
  | list vs =>
    cases vs with
    | nil => exact ⟨none, nofun, fun s => rfl⟩
    | cons v vs => exact begun (v :: vs) rfl rfl
  | _ => exact begun _ List.isEmpty_cons (by rw [← single]; rfl)

/-- A call change by change comes to the call as a whole. By the time it is refused it has done
nothing, unless it was to build a chain from a document. -/
theorem Call.steps_on (call : Call) : ∃ left : Option Chain,
    (∀ cs ∈ left, ∀ c ∈ cs, c.Accepted) ∧ (left = none ∨ ∃ v, call = .ofPlain v) ∧
    ∀ s : Store, call.steps.on s = s.leaving left (s.call call) := by
  cases call with
  | ofPlain v =>
    obtain ⟨left, held, there⟩ := ofPlain_on v
    exact ⟨left, held, .inr ⟨v, rfl⟩, there⟩
  | create field isOr mate => cases mate <;> exact ⟨none, nofun, .inl rfl, fun s => rfl⟩
  | createAmong field isOr nodes => exact ⟨none, nofun, .inl rfl, fun s => rfl⟩
  | andField i field | orField i field => exact ⟨none, nofun, .inl rfl, fun s => rfl⟩
  | andNode i j =>
    refine ⟨none, nofun, .inl rfl, fun s => ?_⟩
    rw [steps, Steps.andNode, call, Store.andNode, Changes.on_bind_ok Changes.on_get]
    split
    · rfl
    · rfl
  | orNode i j =>
    refine ⟨none, nofun, .inl rfl, fun s => ?_⟩
    simp only [steps, Steps.orNode, Changes.on_bind, Changes.on_get, newNode_on, edit_append,
      Changes.on_pure]
    rfl
  | negate i => exact ⟨none, nofun, .inl rfl, fun s => rfl⟩
  | constrain i k =>
    refine ⟨none, nofun, .inl rfl, fun s => ?_⟩
    rw [call, Store.constrain, Criterion.constrain?, steps, Steps.constrain]
    cases k.entry? with
    | error f => rfl
    | ok e => rfl
  | boostBy i v =>
    refine ⟨none, nofun, .inl rfl, fun s => ?_⟩
    rw [call, Store.boostBy, Criterion.boostBy?, steps, Steps.boostBy]
    cases Criterion.boostOf? v with
    | error f => rfl
    | ok x => rfl

end Steps
end Store

namespace Search
variable {ν : Type}

/-- A call on a request, change by change. -/
def Call.steps : Call → Changes (Search ν Query) Unit
  | .filter (.query q) => Changes.alter (·.withFilter (some q))
  | .filter (.value v) => do
    let filter ← Changes.ofExcept (filterOf? v)
    Changes.alter (·.withFilter filter)
  | .fields names => Changes.alter (·.withFields names)
  | .sort field direction => do
    let t ← Changes.ofExcept (sortTerm? field direction)
    Changes.alter fun s => { s with sort := s.sort ++ [t] }
  | .minScore score => do
    let negative ← Changes.ofExcept (isNegative? score)
    if negative then Changes.refuse (.request .minScore)
    else Changes.alter fun s => { s with minScore := score }
  | .indices names => Changes.alter (·.withIndices names)

theorem Call.steps_on (call : Call) (s : Search ν Query) :
    call.steps.on s = match s.call call with
      | .ok t => (.ok (), t)
      | .error f => (.error f, s) := by
  cases call with
  | fields names | indices names => rfl
  | filter arg =>
    cases arg with
    | query q => rfl
    | value v =>
      rw [Search.call, steps]
      cases filterOf? v with
      | error f => rfl
      | ok filter => rfl
  | sort field direction =>
    rw [Search.call, withSort?, steps]
    cases sortTerm? field direction with
    | error f => rfl
    | ok t => rfl
  | minScore score =>
    rw [Search.call, withMinScore?, steps]
    cases isNegative? score with
    | error f => rfl
    | ok negative => cases negative <;> rfl

end Search
end SearchCriteria
