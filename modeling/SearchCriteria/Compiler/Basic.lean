import SearchCriteria.Compiler.Resolver
import SearchCriteria.Config
import SearchCriteria.Criteria.Criterion
import SearchCriteria.Query.Record
import SearchCriteria.Value.Written

/-! Compiling a chain. Each criterion becomes one fragment; fragments of alternatives may
match, those of negating criteria must not, and all others must. -/
namespace SearchCriteria

/-- What an entry is compiled into. -/
inductive EntryStyle where
  /-- A query of the kind that fits the operation. -/
  | standard
  /-- A raw term on the field, whatever the operation. -/
  | verbatim
deriving DecidableEq, Repr, Inhabited

structure Compiler where
  config : Config
  resolver : Option Resolver
  style : EntryStyle
deriving Inhabited

/-- The place of a clause in a query. -/
inductive Slot where
  | should
  | mustNot
  | must
deriving DecidableEq, Repr

def Slot.name : Slot → String
  | should => "should"
  | mustNot => "must_not"
  | must => "must"

/-- An alternative is one also when it is negating. -/
def Criterion.slot (c : Criterion) : Slot :=
  if c.isOr then .should else if c.negating then .mustNot else .must

/-- The query with one more clause at the end of a slot, where it has one. -/
def Query.addClause (q : Query) (slot : Slot) (clause : Query) : Query :=
  match q with
  | .bool boost should mustNot must => match slot with
    | .should => .bool boost (should ++ [clause]) mustNot must
    | .mustNot => .bool boost should (mustNot ++ [clause]) must
    | .must => .bool boost should mustNot (must ++ [clause])
  | q => q

/-- The clauses of a query under construction. -/
structure Clauses where
  should : List Query
  mustNot : List Query
  must : List Query
deriving Repr

namespace Clauses

def empty : Clauses := ⟨[], [], []⟩

def cons (slot : Slot) (q : Query) (cs : Clauses) : Clauses :=
  match slot with
  | .should => { cs with should := q :: cs.should }
  | .mustNot => { cs with mustNot := q :: cs.mustNot }
  | .must => { cs with must := q :: cs.must }

def isEmpty (cs : Clauses) : Bool :=
  cs.should.isEmpty && cs.mustNot.isEmpty && cs.must.isEmpty

/-- The clauses in the order in which they are added to a query, each with its slot. -/
def additions (cs : Clauses) : List (Slot × Query) :=
  cs.should.map (.should, ·) ++ cs.mustNot.map (.mustNot, ·) ++ cs.must.map (.must, ·)

/-- The query that the additions make of a new one. -/
def toQuery (cs : Clauses) : Query :=
  cs.additions.foldl (fun q a => q.addClause a.1 a.2) (.bool .null [] [] [])

/-- How many clauses there are of each kind, in words. -/
def summary (cs : Clauses) : String :=
  "Compiled " ++ toString cs.should.length ++ " should, " ++ toString cs.mustNot.length
    ++ " must_not, " ++ toString cs.must.length ++ " must clauses"

end Clauses

namespace Compiler

def kind (c : Compiler) : String :=
  match c.style with
  | .standard => "CriteriaCompiler"
  | .verbatim => "RawEntryCompiler"

def ofConfig (config : Config) : Compiler := ⟨config, none, .standard⟩

/-- A field query; the flag that wildcards are analysed may be left out. -/
def fieldQuery? (field value : Value) (flag : Entries) : Except Failure Query :=
  RecordKind.field.ofValue? (.map ([(.text "field", field), (.text "value", value)] ++ flag))

def wildcard? (c : Compiler) (field : Value) (term : String) : Except Failure Query :=
  fieldQuery? field (.text term) [(.text "analyze_wildcard", c.config.analyzeWildcard)]

def rawTerm? (field value : Value) : Except Failure Query := do
  let term ← Value.extend? [] field value
  RecordKind.raw.ofValue? (.map [(.text "body", .map [(.text "term", .map term)])])

/-- The query that an operation makes of a value that is not null. -/
def standard? (c : Compiler) (op : Operation) (v field : Value) : Except Failure Query :=
  match op with
  | .equals => fieldQuery? field v []
  | .contains => do c.wildcard? field ("*" ++ (← v.written?) ++ "*")
  | .startsWith => do c.wildcard? field ((← v.written?) ++ "*")
  | .endsWith => do c.wildcard? field ("*" ++ (← v.written?))
  | .expression => do
    let query ← v.written?
    RecordKind.text.ofValue? (.map [(.text "query", .text query), (.text "field", field)])
  | .between => do
    let lower ← v.item? 0
    let upper ← v.item? 1
    RecordKind.range.ofValue?
      (.map [(.text "field", field), (.text "from_", lower), (.text "to", upper)])
  | .fuzzy => do
    let term ← v.written?
    RecordKind.fuzzy.ofValue? (.map [(.text "field", field), (.text "value", .text term)])
  | .oneOf => do
    let items ← v.items?
    let should ← items.mapM fun item => fieldQuery? field item []
    return .bool .null should [] []

/-- The query of one entry on a field. Null asks for nothing. -/
def entry? (c : Compiler) (op : Operation) (v field : Value) : Except Failure (Option Query) :=
  if v.isNull then .ok none
  else match c.style with
    | .standard => (c.standard? op v field).map some
    | .verbatim => (rawTerm? field v).map some

def unknownEntry? (c : Compiler) (name : String) (v field : Value) :
    Except Failure (Option Query) :=
  if v.isNull then .ok none
  else match c.style with
    | .standard => .error (.request (.operation name))
    | .verbatim => (rawTerm? field v).map some

/-- The document field of a property: aliases are looked up first, then the resolver is
asked, and the answer has to be a name. -/
def resolveField? (c : Compiler) (field : Value) : Except Failure Value := do
  if field.isNull then .error (.field .unknown)
  let aliased ← Value.lookup? c.config.fieldAliases field
  let resolved ← match c.resolver with
    | none => .ok (aliased.getD field)
    | some r => r.apply? (aliased.getD field)
  if resolved.truthy then .ok resolved else .error (.quoting field (.field (.unresolved field)))

/-- The boost of a criterion goes on its fragment, where that has a place for it. -/
def boosted (q : Query) (boost : Binary64) : Traced Query :=
  if boost.isNaN then pure q
  else match q.withBoost? (.float boost) with
    | some q => pure q
    | none => do
      Traced.debug ("Boost " ++ (Value.float boost).plain ++ " ignored on " ++ q.kind)
      return q

/-- The queries of all entries on a field, without those that ask for nothing. -/
def leaves? (c : Compiler) (field : Value) : List Entry → Except Failure (List Query)
  | [] => .ok []
  | e :: es => do
    let leaf ← c.entry? e.operation e.value field
    let rest ← c.leaves? field es
    return leaf.toList ++ rest

/-- The query of a criterion before its boost: a single entry stands for itself, several
have to match together. -/
def unboosted? (c : Compiler) (n : Criterion) : Except Failure (Option Query) :=
  match n.entries with
  | [] => .ok none
  | [e] => do
    let field ← c.resolveField? n.field
    c.entry? e.operation e.value field
  | es => do
    let field ← c.resolveField? n.field
    let leaves ← c.leaves? field es
    return if leaves.isEmpty then none else some (.bool .null [] [] leaves)

/-- The fragment of a criterion, unless it asks for nothing. -/
def fragment (c : Compiler) (n : Criterion) : Traced (Option Query) := do
  match ← Traced.ofExcept (c.unboosted? n) with
  | none => return none
  | some q => return some (← boosted q n.boost)

/-- The fragments of a chain, each in its slot. -/
def gather (c : Compiler) : List Criterion → Traced Clauses
  | [] => pure .empty
  | n :: ns => do
    match ← c.fragment n with
    | some q => return (← c.gather ns).cons n.slot q
    | none =>
      Traced.debugAbout n.field fun field => "Criteria on " ++ field ++ " contributes no clause"
      c.gather ns

/-- The clauses that a chain is compiled into, when it is handed in by one of its nodes. A
node that says nothing hands in nothing. -/
def clauses (c : Compiler) (node : Criterion) (chain : List Criterion) :
    Traced (Option Clauses) :=
  if node.entries.isEmpty then pure none
  else do
    let cs ← c.gather chain
    if cs.isEmpty then return none
    Traced.debug cs.summary
    return some cs

/-- The query that a chain is compiled into. -/
def compile (c : Compiler) (node : Criterion) (chain : List Criterion) : Traced (Option Query) :=
  do return (← c.clauses node chain).map Clauses.toQuery

end Compiler
end SearchCriteria
