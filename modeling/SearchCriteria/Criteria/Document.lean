import SearchCriteria.Criteria.Criterion

/-! Chains as documents: what a chain looks like in plain data, and the chain that plain
data describes. -/
namespace SearchCriteria
namespace Criterion

def toPlain (c : Criterion) : Value :=
  .map [
    (.text "field", c.field),
    (.text "entries", .list (c.entries.map Entry.toPlain)),
    (.text "boost", if c.hasBoost then .float c.boost else .null),
    (.text "or", .bool c.isOr),
    (.text "negating", .bool c.negating)]

def operationOf? (e : Value) : Except Failure (Operation × Entries) :=
  match e with
  | .map es => match (Entries.named? "key" es).map Operation.ofValue? with
    | some (.ok op) => .ok (op, es)
    | _ => .error (.quoting e (.criteria (.entryWithoutKey e)))
  | e => .error (.quoting e (.criteria (.entryWithoutKey e)))

/-- The criterion with one more entry of a document. An entry without a value is kept, and
asks for nothing. -/
def addPlain? (c : Criterion) (e : Value) : Except Failure Criterion := do
  let (op, es) ← operationOf? e
  match (Entries.named? "value" es).getD .null with
  | .null => .ok (c.withEntry ⟨op, .null⟩)
  | v => c.constrain? (← Constraint.ofOperation? op v)

/-- The entries of a node; what counts as nothing counts as no entries. -/
def entriesOf? (es : Entries) : Except Failure (List Value) :=
  match (Entries.named? "entries" es).getD .null with
  | .list xs => .ok xs
  | v => if v.truthy then .error (.quoting v (.criteria (.entriesNotList v))) else .ok []

/-- The criterion under the boost of a node; null is none. -/
def addBoost? (c : Criterion) : Value → Except Failure Criterion
  | .null => .ok c
  | v => c.boostBy? v

def ofPlain? (v : Value) : Except Failure Criterion :=
  match v with
  | .map es => do
    let fresh := start ((Entries.named? "field" es).getD .null)
      ((Entries.named? "or" es).getD .null).truthy
    let c ← (← entriesOf? es).foldlM addPlain? fresh
    let c ← c.addBoost? ((Entries.named? "boost" es).getD .null)
    .ok (if ((Entries.named? "negating" es).getD .null).truthy then c.negated else c)
  | v => .error (.quoting v (.criteria (.nodeNotMap v)))

end Criterion

abbrev Chain := List Criterion

namespace Chain

def toPlain (chain : Chain) : Value := .list (chain.map Criterion.toPlain)

/-- The chain that a document describes: a list of nodes, or a single one. -/
def ofPlain? (v : Value) : Except Failure Chain :=
  match v with
  | .list [] => .error (.criteria .emptyChain)
  | .list nodes => nodes.mapM Criterion.ofPlain?
  | node => (Criterion.ofPlain? node).map ([·])

end Chain
end SearchCriteria
