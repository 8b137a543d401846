import SearchCriteria.Session.Step

/-! Compiling and rendering in a session. What a chain is compiled into holds the values of its
entries themselves, a bound of a range and a choice among others being parts of one. -/
namespace SearchCriteria
namespace Session

/-- What the query of an entry on a node holds of the entry's value. -/
def heldOfEntry (s : Session) (e : Entry) (source : Origin) (j : QueryId) : Holdings :=
  match e.operation with
  | .equals => [(.member (.query j) "value", source)]
  | .between => [(.member (.query j) "from_", .item source 0),
      (.member (.query j) "to", .item source 1)]
  | .oneOf => (s.queries.clausesIn .should j).mapIdx fun k q =>
      (.member (.query q) "value", .item source k)
  | .contains | .startsWith | .endsWith | .expression | .fuzzy => []

/-- What the fragment of a node holds of its entries' values. -/
def heldOfNode (s : Session) (i : NodeId) (j : QueryId) : Holdings :=
  let source := Origin.item (.member (.node i) "entries")
  match (s.store.node i).entries.zipIdx with
  | [e] => s.heldOfEntry e.1 (source e.2) j
  | es => ((es.filter (!·.1.value.isNull)).zip (s.queries.clausesIn .must j)).flatMap fun p =>
      s.heldOfEntry p.1.1 (source p.1.2) p.2

/-- What the query of a chain holds of its entries' values. -/
def heldOfChain (s : Session) (is : List NodeId) (j : QueryId) : Holdings :=
  let contributing := is.filter fun i => (s.store.node i).entries.any (!·.value.isNull)
  [Slot.should, .mustNot, .must].flatMap fun slot =>
    ((contributing.filter fun i => (s.store.node i).slot == slot).zip
      (s.queries.clausesIn slot j)).flatMap fun p => s.heldOfNode p.1 p.2

/-- Where the field is from that a compiler makes of a property. One text in front of another
makes a third, unless one of the two is empty. -/
def fieldOrigin (c : Compiler) (h : Handle) (field : Value) (own new : Origin) : Origin :=
  let place (name : String) (es : Entries) (v : Value) (o : Origin) : Origin :=
    ((Entries.position? v es).map (.item (.member h name))).getD o
  let answer := "field_resolver"
  let name := (Entries.find? field c.config.fieldAliases).getD field
  let origin := place "field_aliases" c.config.fieldAliases field own
  match c.resolver with
  | none => origin
  | some (.prepend p) =>
    if p.isEmpty then origin else if name.truthy then new else .member h answer
  | some (.constant _) => .member h answer
  | some (.rename names) | some (.require names) => place answer names name origin
  | some (.function _) => new

namespace Run

/-- A compiler under a configuration, which is normalised for it. -/
def compilerFor (config : Object) (resolver : Option Resolver) (style : EntryStyle) :
    Run Compiler := do
  return ⟨← parseConfig config, resolver, style⟩

def makeCompiler (config : Object) (resolver : Option Resolver) (style : EntryStyle) :
    Run Object := do
  let c ← compilerFor config resolver style
  let h ← newCompiler c
  holdConfig c.config config h
  return .handle h

/-- The compiler that is named for a call, or the one that is used when none is. -/
def compilerNamed (call : String) : Option Object → Run Compiler
  | none => compilerFor .null none .standard
  | some o => do return (← get).compiler (← asCompiler call o)

/-- New objects for what nodes are compiled into, or nothing where there is none. -/
def newCompiled (held : Session → QueryId → Holdings) : Option Query → Run Object
  | none => return .null
  | some q => do
    let j ← onQueries fun h => .ok (h.ofQuery q)
    hold (held (← get) j)
    return .handle (.query j)

def compile (c : Compiler) (o : Object) : Run Object := do
  if o.isNull then return .null
  let i ← asNode "entries" o
  let s ← get
  newCompiled (·.heldOfChain (s.store.chainOf i)) (← traced (c.compile (s.criterion i) (s.chain i)))

def compileFragment (c : Compiler) (o : Object) : Run Object := do
  let i ← asNode "entries" o
  newCompiled (·.heldOfNode i) (← traced (c.fragment ((← get).criterion i)))

def resolveField (call : String) (compiler : Option Object) (field : Value) : Run Object := do
  let c ← compilerNamed call compiler
  let v ← ofExcept (c.resolveField? field)
  let own ← arrival field
  match compiler with
  | some (.handle h) => return (← get).found v (fieldOrigin c h field own (← newOrigin))
  | _ => return .ofValue v own

def rendered (o : Object) : Run Value := do
  let s ← get
  match o with
  | .handle (.query i) => ofExcept (s.query i).render?
  | o => ofExcept (Query.render? (.foreign (.value (s.asValue o))))

/-- The same as an object. A raw query is rendered as what it holds, not as a copy of it. -/
def convert (o : Object) : Run Object := do
  let v ← rendered o
  match o with
  | .handle (.query i) => match (← get).queries.cell i with
    | .leaf (.raw _) => return (← get).found v (.member (.query i) "body")
    | _ => made v
  | .value .. => brought v
  | _ => made v

/-- Render a request, with a compiler that is asked for when the indices have been read. -/
def renderSearch (compiler : Option Object) (i : SearchId) : Run Value := do
  let s ← get
  let r := s.search i
  discard (ofExcept (Search.indexArgument? r.indices))
  let c ← compilerNamed "compile" (compiler.filter fun o => !o.isNull)
  traced ((s.resolved r).render c)

/-- A rendered object as JSON. There are fixed words for nothing and for the empty map, and
others for the empty map when it is laid out in lines. -/
def json (indent : Option Int) (rendered : Value) : Run Object := do
  let words : Value := .text (← ofExcept (Json.render? indent rendered))
  match rendered with
  | .null => return .common words
  | .map [] => return .value words (.shared (if indent.isSome then .layout else .common))
  | _ => made words

end Run
end Session
end SearchCriteria
