import SearchCriteria.Session.Outline

/-! Members of objects by their names, and the items that members hold. -/
namespace SearchCriteria

/-- What an object has under a name. -/
inductive Member where
  | value (v : Value)
  | nodes (is : List NodeId)
  | clauses (is : List QueryId)
  | entries (es : List Entry)
  | terms (ts : List SortTerm)
  /-- A single object of a kind, which has no items. -/
  | object (kind : String)
deriving Repr

namespace Member

def ofValue : Value → Member
  | .object o => .object o.kind
  | v => .value v

end Member

namespace Session

def nodeMembers (s : Session) (i : NodeId) : List (String × Member) :=
  let c := (s.store.node i).toCriterion
  [("field", .ofValue c.field), ("entries", .entries c.entries),
    ("boost", .value (.float c.boost)), ("is_or", .value (.bool c.isOr)),
    ("is_negating", .value (.bool c.negating)), ("criteria_chain", .nodes (s.store.chainOf i))]

def queryMembers (s : Session) (i : QueryId) : List (String × Member) :=
  match s.queries.cell i with
  | .leaf q => q.fields.map fun f => (f.1, .value f.2)
  | .bool boost should mustNot must =>
    [("boost", .value boost), ("should", .clauses (s.queries.clauses should)),
      ("must_not", .clauses (s.queries.clauses mustNot)),
      ("must", .clauses (s.queries.clauses must))]
  | .foreign (.entry e) => [("key", .value (.text e.operation.name)), ("value", .value e.value)]
  | .foreign (.sort t) => [("field", .value (.text t.field)),
      ("direction", .value (.text t.direction.name))]
  | .foreign (.value _) => []

def searchMembers (s : Session) (i : SearchId) : List (String × Member) :=
  let r := s.search i
  let filter := match r.filter.map s.queries.cell with
    | none => .value .null
    | some (.foreign (.value v)) => .ofValue v
    | some c => .object c.kind
  [("criteria", match r.criteria with
      | none => .value .null
      | some i => .object (s.kindOf (.node i))),
    ("filter", filter), ("fields", .value (.list r.fields)), ("sort", .terms r.sort),
    ("min_score", .value r.minScore), ("indices", .value (.list r.indices))]

def members (s : Session) : Handle → List (String × Member)
  | .node i => s.nodeMembers i
  | .query i => s.queryMembers i
  | .search i => s.searchMembers i
  | .config i =>
    let c := s.config i
    [("analyze_wildcard", .value c.analyzeWildcard),
      ("field_aliases", .value (.map c.fieldAliases)),
      ("log_level", .value (.ofText? c.logLevel))]
  | .compiler i =>
    [("config", .object "CompilerConfig"), ("field_resolver", match (s.compiler i).resolver with
      | none => .value .null
      | some _ => .object "function")]

namespace Run

/-- The expression object that stands for a part of an object. -/
def part (owner : Handle) (name : String) (place : Nat) (x : Foreign) : Run Object := do
  match (← get).parts.lookup (owner, place) with
  | some j => return .handle (.query j)
  | none =>
    let j ← onQueries fun h => .ok (h.add (.foreign x))
    modify fun s => { s with parts := ((owner, place), j) :: s.parts }
    hold [(.member (.query j) "value", .item (.member owner name) place)]
    return .handle (.query j)

/-- The part in a place, where an object has a list of them. -/
def partOf {α : Type} (owner : Handle) (name : String) (xs : List α) (n : Int)
    (foreign : α → Foreign) : Run Object := do
  let x ← ofExcept (Value.inPlace? "list index" xs n)
  part owner name ((Value.place? xs.length n).getD 0) (foreign x)

/-- What a clause is: an expression, or what was added in place of one. -/
def clause (j : QueryId) : Run Object := do
  let s ← get
  match s.queries.cell j with
  | .foreign (.value v) => return s.found v (.member (.query j) "value")
  | _ => return .handle (.query j)

/-- The item in a place of a value. A letter of a text is not part of it but made for whoever
asks. -/
def itemOf (v : Value) (whole : Origin) (n : Int) : Run Object := do
  let x ← ofExcept (v.item? n)
  match v.partPlace? n with
  | some k => return (← get).found x (.item whole k)
  | none => brought x

/-- The item in a place of what an object has under a name. -/
def item (o : Object) (name : String) (n : Int) : Run Object := do
  match o with
  | .value .. => lacks o name
  | .handle h => match ((← get).members h).lookup name with
    | none => lacks o name
    | some (.value v) => itemOf v (.member h name) n
    | some (.nodes is) => return .handle (.node (← ofExcept (Value.inPlace? "list index" is n)))
    | some (.clauses is) => clause (← ofExcept (Value.inPlace? "list index" is n))
    | some (.entries es) => partOf h name es n .entry
    | some (.terms ts) => partOf h name ts n .sort
    | some (.object kind) => refuse (.kind (.notSubscriptable kind))

end Run
end Session
end SearchCriteria
