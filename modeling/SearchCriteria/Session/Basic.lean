import SearchCriteria.Criteria.Store
import SearchCriteria.Log.Logger
import SearchCriteria.Query.Heap
import SearchCriteria.Search.Render
import SearchCriteria.Session.Origin

/-! Sessions: objects of every kind side by side, under one environment and one logger. -/
namespace SearchCriteria

abbrev SearchId := Nat
abbrev ConfigId := Nat
abbrev CompilerId := Nat

/-- All objects of a session, and what it has put out. An entry of a node or a term of a
request is an expression object of its own once it has been asked for. -/
structure Session where
  environment : Option String
  logger : Logger
  output : Transcript
  store : Store
  queries : Heap
  searches : Array (Search NodeId QueryId)
  configs : Array Config
  compilers : Array Compiler
  parts : List ((Handle × Nat) × QueryId)
  /-- What places hold that was put there. -/
  held : Holdings
  /-- The next number that has not been given out. -/
  serial : Nat

/-- What a step may be given and may answer: a value, or an object. -/
inductive Object where
  | value (v : Value) (origin : Origin)
  | handle (h : Handle)
deriving DecidableEq, Repr

namespace Object

/-- An object that stood where a value may stand, or the value. -/
def ofValue (v : Value) (origin : Origin) : Object :=
  match v with
  | .object o => .handle o.handle
  | v => .value v origin

/-- The one value of a content that is common to all. -/
def common (v : Value) : Object := .value v (.shared .common)

def null : Object := common .null

def ofBool (b : Bool) : Object := common (.bool b)

def isNull : Object → Bool
  | .value v _ => v.isNull
  | _ => false

/-- Whether two objects are one and the same: equal content is not enough. -/
def same (a b : Object) : Bool := a == b

end Object

namespace Session

/-- A session without objects, in an environment that may set the log level. -/
def start (environment : Option String) : Session :=
  ⟨environment, .embedded, .empty, .empty, .empty, #[], #[], #[], [], [], 1⟩

def search (s : Session) (i : SearchId) : Search NodeId QueryId := s.searches.getD i default

def config (s : Session) (i : ConfigId) : Config := s.configs.getD i default

def compiler (s : Session) (i : CompilerId) : Compiler := s.compilers.getD i default

def kindOf (s : Session) : Handle → String
  | .node _ => "Criteria"
  | .query i => (s.queries.cell i).kind
  | .search _ => Search.modelName
  | .config _ => "CompilerConfig"
  | .compiler i => (s.compiler i).kind

def kind (s : Session) : Object → String
  | .value v _ => v.kind
  | .handle h => s.kindOf h

def found (s : Session) (v : Value) (place : Origin) : Object :=
  .ofValue v (s.held.originOf v place)

/-- A step of a session. What was done before a refusal stays done. -/
abbrev Run (α : Type) := ExceptT Failure (StateM Session) α

namespace Run

def refuse {α : Type} (f : Failure) : Run α := throw f

def ofExcept {α : Type} (r : Except Failure α) : Run α := MonadExcept.ofExcept r

/-- A computation, with its events passed on to the logger. -/
def traced {α : Type} (t : Traced α) : Run α := do
  let (written, result) := (← get).logger.record t
  modify fun s => { s with output := s.output ++ written }
  ofExcept result

/-- A value from outside, with its parts told from all others. -/
def receive (v : Value) : Run Value := do
  let (serial, w) := v.numbered (← get).serial
  modify fun s => { s with serial }
  return w

/-- An origin that nothing has had so far. -/
def newOrigin : Run Origin := do
  let n := (← get).serial
  modify fun s => { s with serial := n + 1 }
  return .made n

/-- A value that is made for whoever asks. -/
def made (v : Value) : Run Object := return .ofValue v (← newOrigin)

def arrival (v : Value) : Run Origin := do
  if v.isUnique then return .shared .common else newOrigin

def brought (v : Value) : Run Object := return .ofValue v (← arrival v)

def hold (moved : Holdings) : Run Unit :=
  modify fun s => { s with held := s.held.extend moved }

def onStore (f : Store → Except Failure (NodeId × Store)) : Run NodeId := do
  let (i, store) ← ofExcept (f (← get).store)
  modify fun s => { s with store }
  return i

def build (c : Store.Call) : Run Object := return .handle (.node (← onStore (·.call c)))

def onQueries (f : Heap → Except Failure (QueryId × Heap)) : Run QueryId := do
  let (i, queries) ← ofExcept (f (← get).queries)
  modify fun s => { s with queries }
  return i

/-- New objects for an expression, or nothing where there is none. -/
def newQuery : Option Query → Run Object
  | none => return .null
  | some q => return .handle (.query (← onQueries fun h => .ok (h.ofQuery q)))

def newSearch (r : Search NodeId QueryId) : Run SearchId := do
  let i := (← get).searches.size
  modify fun s => { s with searches := s.searches.push r }
  return i

def newConfig (c : Config) : Run Handle := do
  let i := (← get).configs.size
  modify fun s => { s with configs := s.configs.push c }
  return .config i

def newCompiler (c : Compiler) : Run Handle := do
  let i := (← get).compilers.size
  modify fun s => { s with compilers := s.compilers.push c }
  return .compiler i

/-- Replace a request by what a call makes of it. -/
def updateSearch (i : SearchId)
    (f : Search NodeId QueryId → Except Failure (Search NodeId QueryId)) : Run Object := do
  let r ← ofExcept (f ((← get).search i))
  modify fun s => { s with searches := s.searches.setIfInBounds i r }
  return .handle (.search i)

def updateConfig (i : ConfigId) (f : Config → Except Failure Config) : Run Object := do
  let c ← ofExcept (f ((← get).config i))
  modify fun s => { s with configs := s.configs.setIfInBounds i c }
  return .handle (.config i)

def lacks {α : Type} (o : Object) (name : String) : Run α := do
  refuse (.noAttribute ((← get).kind o) name)

/-- The node that an object is, for a call of a name. -/
def asNode (name : String) : Object → Run NodeId
  | .handle (.node i) => return i
  | o => lacks o name

def asQuery (name : String) : Object → Run QueryId
  | .handle (.query i) => return i
  | o => lacks o name

def asSearch (name : String) : Object → Run SearchId
  | .handle (.search i) => return i
  | o => lacks o name

def asConfig (name : String) : Object → Run ConfigId
  | .handle (.config i) => return i
  | o => lacks o name

def asCompiler (name : String) : Object → Run CompilerId
  | .handle (.compiler i) => return i
  | o => lacks o name

end Run
end Session
end SearchCriteria
