import SearchCriteria.Criteria.Document

/-! The nodes and chains that builder calls make. A chain is a list of nodes that grows at
its end, and every node knows one chain: the one it was created in. A node that a merge
takes over is listed in a second chain and still knows its own. -/
namespace SearchCriteria

abbrev NodeId := Nat
abbrev ChainId := Nat

/-- A criterion in a store. -/
structure Node extends Criterion where
  chain : ChainId
deriving Inhabited, Repr

structure Store where
  nodes : Array Node
  chains : Array (List NodeId)
deriving Inhabited, Repr

namespace Store

def empty : Store := ⟨#[], #[]⟩

def node (s : Store) (i : NodeId) : Node := s.nodes.getD i default

def members (s : Store) (c : ChainId) : List NodeId := s.chains.getD c []

/-- The chain that a node knows, as the nodes listed in it. -/
def chainOf (s : Store) (i : NodeId) : List NodeId := s.members (s.node i).chain

/-- The chain that a node knows, as criteria. -/
def criteria (s : Store) (i : NodeId) : Chain :=
  (s.chainOf i).map fun j => (s.node j).toCriterion

/-- One more chain, with nodes that are listed in it. -/
def withChain (s : Store) (nodes : List NodeId) : Store :=
  { s with chains := s.chains.push nodes }

def extend (s : Store) (chain : ChainId) (nodes : List NodeId) : Store :=
  { s with chains := s.chains.modify chain (· ++ nodes) }

def append (s : Store) (chain : ChainId) (c : Criterion) : NodeId × Store :=
  (s.nodes.size,
    { s with nodes := s.nodes.push { c with chain } }.extend chain [s.nodes.size])

def update (s : Store) (i : NodeId) (c : Criterion) : Store :=
  { s with nodes := s.nodes.modify i fun n => { c with chain := n.chain } }

/-- A node of a chain of its own, or of the chain that another node knows. -/
def create (s : Store) (field : Value) (isOr : Bool) (mate : Option NodeId) : NodeId × Store :=
  match mate with
  | some j => s.append (s.node j).chain (.start field isOr)
  | none => (s.withChain []).append s.chains.size (.start field isOr)

/-- A node at the end of a list of nodes, which is its chain from now on. -/
def createAmong (s : Store) (field : Value) (isOr : Bool) (nodes : List NodeId) :
    NodeId × Store :=
  (s.withChain nodes).append s.chains.size (.start field isOr)

def andField (s : Store) (i : NodeId) (field : Value) : NodeId × Store :=
  s.create field false (some i)

def orField (s : Store) (i : NodeId) (field : Value) : NodeId × Store :=
  s.create field true (some i)

/-- List all nodes of the other node's chain in this node's chain, too. -/
def andNode (s : Store) (i j : NodeId) : Except Failure (NodeId × Store) :=
  if (s.node j).chain = (s.node i).chain then .error (.criteria .alreadyInChain)
  else .ok (i, s.extend (s.node i).chain (s.chainOf j))

/-- A copy of the other node, as an alternative in this node's chain. -/
def orNode (s : Store) (i j : NodeId) : NodeId × Store :=
  s.append (s.node i).chain { (s.node j).toCriterion with isOr := true }

def constrain (s : Store) (i : NodeId) (k : Constraint) : Except Failure (NodeId × Store) :=
  ((s.node i).constrain? k).map fun c => (i, s.update i c)

def boostBy (s : Store) (i : NodeId) (v : Value) : Except Failure (NodeId × Store) :=
  ((s.node i).boostBy? v).map fun c => (i, s.update i c)

def negate (s : Store) (i : NodeId) : NodeId × Store :=
  (i, s.update i (s.node i).negated)

/-- Nodes one after the other at the end of a chain; the last one is answered. -/
def appendAll (s : Store) (chain : ChainId) : Chain → NodeId × Store
  | [] => (s.nodes.size, s)
  | [c] => s.append chain c
  | c :: cs => appendAll (s.append chain c).2 chain cs

/-- The chain that a document describes, as a new chain. -/
def ofPlain (s : Store) (v : Value) : Except Failure (NodeId × Store) :=
  (Chain.ofPlain? v).map fun cs => (s.withChain []).appendAll s.chains.size cs

/-- A builder call. -/
inductive Call where
  | create (field : Value) (isOr : Bool) (mate : Option NodeId)
  | createAmong (field : Value) (isOr : Bool) (nodes : List NodeId)
  | andField (i : NodeId) (field : Value)
  | orField (i : NodeId) (field : Value)
  | andNode (i j : NodeId)
  | orNode (i j : NodeId)
  | constrain (i : NodeId) (k : Constraint)
  | negate (i : NodeId)
  | boostBy (i : NodeId) (v : Value)
  | ofPlain (v : Value)
deriving Repr

/-- The node that a call answers, and the store after it. -/
def call (s : Store) : Call → Except Failure (NodeId × Store)
  | .create field isOr mate => .ok (s.create field isOr mate)
  | .createAmong field isOr nodes => .ok (s.createAmong field isOr nodes)
  | .andField i field => .ok (s.andField i field)
  | .orField i field => .ok (s.orField i field)
  | .andNode i j => s.andNode i j
  | .orNode i j => .ok (s.orNode i j)
  | .constrain i k => s.constrain i k
  | .negate i => .ok (s.negate i)
  | .boostBy i v => s.boostBy i v
  | .ofPlain v => s.ofPlain v

/-- The store after a call; a call that is refused leaves none behind. -/
def after (s : Store) (c : Call) : Store :=
  match s.call c with
  | .ok (_, t) => t
  | .error _ => s

def run (s : Store) (cs : List Call) : Store := cs.foldl after s

end Store
end SearchCriteria
