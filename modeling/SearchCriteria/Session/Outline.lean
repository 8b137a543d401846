import SearchCriteria.Session.Basic

/-! How the objects of a session are written at the moment, and what they are when other
objects stand in them. Each of those is looked at anew, down to a depth that no chain of
different objects exceeds. -/
namespace SearchCriteria
namespace Session

/-- A node's criterion, as it is under a way of looking at values. -/
def criterionBy (s : Session) (look : Value → Value) (i : NodeId) : Criterion :=
  let c := (s.store.node i).toCriterion
  { c with field := look c.field }

/-- An expression, as it is under a way of looking at values. -/
def queryBy (s : Session) (look : Value → Value) (i : QueryId) : Query :=
  (s.queries.query i).mapValues look

/-- The fields of an object that is written by them, in their quoted form. -/
def fieldsBy (s : Session) (look : Value → Value) : Handle → List (String × String)
  | .config i =>
    let c := s.config i
    [("analyze_wildcard", c.analyzeWildcard.quoted),
      ("field_aliases", (Value.map c.fieldAliases).quoted),
      ("log_level", (Value.ofText? c.logLevel).quoted)]
  | .search i =>
    let r := s.search i
    let none := Value.null.quoted
    [("criteria", (r.criteria.map fun i => (s.criterionBy look i).quoted).getD none),
      ("filter", (r.filter.map fun i => (s.queryBy look i).quoted).getD none),
      ("fields", (Value.list r.fields).quoted),
      ("sort", "[" ++ String.intercalate ", " (r.sort.map SortTerm.quoted) ++ "]"),
      ("min_score", r.minScore.quoted),
      ("indices", (Value.list r.indices).quoted)]
  | _ => []

/-- How an object is written, when other objects in it are looked at down to a depth. -/
def outlineTo (s : Session) : Nat → Handle → Outline
  | 0, h => ⟨h, s.kindOf h, "", ""⟩
  | depth + 1, h =>
    let look (v : Value) : Value := match v with
      | .object o => .object (s.outlineTo depth o.handle)
      | v => v
    let fields := (s.fieldsBy look h).map fun f => f.1 ++ "=" ++ f.2
    let unnamed := "<" ++ s.kindOf h ++ " object>"
    let (text, quoted) := match h with
      | .node i => let c := s.criterionBy look i; (c.text, c.quoted)
      | .query i => let q := s.queryBy look i; (q.text?.toOption.getD "", q.quoted)
      | .compiler _ => (unnamed, unnamed)
      | h => (String.intercalate " " fields,
          s.kindOf h ++ "(" ++ String.intercalate ", " fields ++ ")")
    ⟨h, s.kindOf h, text, quoted⟩

/-- More than there are objects. -/
def depth (s : Session) : Nat :=
  s.store.nodes.size + s.queries.cells.size + s.searches.size + s.configs.size
    + s.compilers.size + 1

def outline (s : Session) (h : Handle) : Outline := s.outlineTo s.depth h

/-- A value as it is now: an object that stands for one may have changed. -/
def look (s : Session) : Value → Value
  | .object o => .object (s.outline o.handle)
  | v => v

def criterion (s : Session) (i : NodeId) : Criterion := s.criterionBy s.look i

/-- The chain that a node knows, as criteria. -/
def chain (s : Session) (i : NodeId) : Chain := (s.store.chainOf i).map s.criterion

def query (s : Session) (i : QueryId) : Query := s.queryBy s.look i

/-- A request with what it refers to in place of the handles. -/
def resolved (s : Session) (r : Search NodeId QueryId) : Search (Criterion × Chain) Query :=
  { r with
    criteria := r.criteria.map fun i => (s.criterion i, s.chain i)
    filter := r.filter.map s.query }

/-- An object as it stands where a value may. -/
def asValue (s : Session) : Object → Value
  | .value v _ => v
  | .handle h => .object (s.outline h)

def quoted (s : Session) (o : Object) : String := (s.asValue o).quoted

/-- An object in words, if what it holds has words. -/
def text? (s : Session) : Object → Except Failure String
  | .handle (.query i) => (s.query i).text?
  | .handle (.node i) => match (s.store.node i).field with
    | .object ⟨.query j, _, _, _⟩ => do
      let _ ← (s.query j).text?
      return (s.criterion i).text
    | _ => .ok (s.criterion i).text
  | o => .ok (s.asValue o).plain

end Session
end SearchCriteria
