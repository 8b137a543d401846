import SearchCriteria.Compiler.Basic
import SearchCriteria.Query.Equality

/-! Query expressions as objects that change. A query with clauses refers to three lists of
clauses, and a copy with another boost refers to the same three. -/
namespace SearchCriteria

abbrev QueryId := Nat
abbrev SlotId := Nat

/-- One expression object. -/
inductive Cell where
  | leaf (q : Leaf)
  | bool (boost : Value) (should mustNot must : SlotId)
  | foreign (x : Foreign)
deriving Repr

instance : Inhabited Cell := ⟨.foreign (.value .null)⟩

structure Heap where
  cells : Array Cell
  slots : Array (List QueryId)
deriving Repr, Inhabited

namespace Cell

def kind : Cell → String
  | .leaf q => q.kind
  | .bool .. => "BoolQuery"
  | .foreign x => x.kind

def isQuery : Cell → Bool
  | .foreign _ => false
  | _ => true

def withBoost? (boost : Value) : Cell → Option Cell
  | .leaf q => (q.withBoost? boost).map .leaf
  | .bool _ should mustNot must => some (.bool boost should mustNot must)
  | .foreign _ => none

def slot? (slot : Slot) : Cell → Option SlotId
  | .bool _ should mustNot must => match slot with
    | .should => some should
    | .mustNot => some mustNot
    | .must => some must
  | _ => none

end Cell

namespace Heap

def empty : Heap := ⟨#[], #[]⟩

def cell (h : Heap) (i : QueryId) : Cell := h.cells.getD i default

def clauses (h : Heap) (s : SlotId) : List QueryId := h.slots.getD s []

/-- The clauses of an object in one of its slots. -/
def clausesIn (h : Heap) (slot : Slot) (i : QueryId) : List QueryId :=
  ((h.cell i).slot? slot).elim [] h.clauses

def add (h : Heap) (c : Cell) : QueryId × Heap :=
  (h.cells.size, { h with cells := h.cells.push c })

/-- A new query with clauses, in lists of its own. -/
def addBool (h : Heap) (boost : Value) (should mustNot must : List QueryId) : QueryId × Heap :=
  let n := h.slots.size
  (h.cells.size,
    { cells := h.cells.push (.bool boost n (n + 1) (n + 2))
      slots := ((h.slots.push should).push mustNot).push must })

mutual

def ofQuery (h : Heap) : Query → QueryId × Heap
  | .leaf q => h.add (.leaf q)
  | .foreign x => h.add (.foreign x)
  | .bool boost should mustNot must =>
    let (should, h) := h.ofQueries should
    let (mustNot, h) := h.ofQueries mustNot
    let (must, h) := h.ofQueries must
    h.addBool boost should mustNot must

def ofQueries (h : Heap) : List Query → List QueryId × Heap
  | [] => ([], h)
  | q :: qs =>
    let (i, h) := h.ofQuery q
    let (is, h) := h.ofQueries qs
    (i :: is, h)

end

/-- The expression that an object is, down to a depth. -/
def view (h : Heap) : Nat → QueryId → Query
  | 0, _ => default
  | depth + 1, i => match h.cell i with
    | .leaf q => .leaf q
    | .foreign x => .foreign x
    | .bool boost should mustNot must =>
      let all (s : SlotId) := (h.clauses s).map (h.view depth)
      .bool boost (all should) (all mustNot) (all must)

/-- The expression that an object is. No expression is deeper than there are objects, as
long as none is among its own clauses. -/
def query (h : Heap) (i : QueryId) : Query := h.view (h.cells.size + 1) i

/-- Whether two objects are the same or have equal content, down to a depth. Objects that
are no expressions are compared as they compare elsewhere. -/
def equalTo (h : Heap) (peers : Handle → Handle → Bool) : Nat → QueryId → QueryId → Bool
  | 0, i, j => i == j
  | depth + 1, i, j => i == j || match h.cell i, h.cell j with
    | .leaf p, .leaf q => p.alike q
    | .foreign x, .foreign y => x.alike peers y
    | .bool b s n m, .bool c t o k =>
      let all (x y : SlotId) : Bool :=
        let xs := h.clauses x
        let ys := h.clauses y
        xs.length == ys.length && (xs.zip ys).all fun p => h.equalTo peers depth p.1 p.2
      b.alike c && all s t && all n o && all m k
    | _, _ => false

/-- Whether two objects are the same or have equal content, where only expressions are
compared by their content. -/
def equal (h : Heap) (i j : QueryId) : Bool :=
  h.equalTo (fun a b => a == b) (h.cells.size + 1) i j

/-- A copy with another boost. Lists of clauses are not copied. -/
def withBoost (h : Heap) (i : QueryId) (boost : Value) : Except Failure (QueryId × Heap) :=
  match (h.cell i).withBoost? boost with
  | some c => .ok (h.add c)
  | none => .error (.noAttribute (h.cell i).kind "with_boost")

/-- One more clause at the end of a list of clauses of an object. -/
def addClause (h : Heap) (slot : Slot) (i j : QueryId) : Except Failure (QueryId × Heap) :=
  match (h.cell i).slot? slot with
  | some s => .ok (i, { h with slots := h.slots.modify s (· ++ [j]) })
  | none => .error (.noAttribute (h.cell i).kind ("add_" ++ slot.name))

/-- Set the flag for wildcards of a field query, whatever it is set to. -/
def setFlag (h : Heap) (i : QueryId) (flag : Value) : Except Failure (QueryId × Heap) :=
  match h.cell i with
  | .leaf (.field q) =>
    .ok (i, { h with
      cells := h.cells.setIfInBounds i (.leaf (.field { q with analyzeWildcard := flag })) })
  | c => .error (.noField c.kind "analyze_wildcard")

/-- A call that makes an expression object or changes one. -/
inductive Call where
  | leaf (q : Leaf)
  | bool (boost : Value) (should mustNot must : List QueryId)
  | withBoost (i : QueryId) (boost : Value)
  | addClause (slot : Slot) (i j : QueryId)
deriving Repr

/-- The object that a call answers, and the objects after it. -/
def call (h : Heap) : Call → Except Failure (QueryId × Heap)
  | .leaf q => .ok (h.add (.leaf q))
  | .bool boost should mustNot must => .ok (h.addBool boost should mustNot must)
  | .withBoost i boost => h.withBoost i boost
  | .addClause slot i j => h.addClause slot i j

/-- The objects after a call; a call that is refused changes none. -/
def after (h : Heap) (c : Call) : Heap :=
  match h.call c with
  | .ok (_, g) => g
  | .error _ => h

def run (h : Heap) (cs : List Call) : Heap := cs.foldl after h

end Heap
end SearchCriteria
