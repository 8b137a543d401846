import SearchCriteria.Query.Printer

/-! The form in which the search engine takes a query: maps of one entry that name the
kind of query, around a map of its arguments. -/
namespace SearchCriteria

def named (name : String) (v : Value) : Value := .map [(.text name, v)]

/-- An argument, left out when it is null. -/
def argument? (name : String) : Value → Entries
  | .null => []
  | v => [(.text name, v)]

/-- A slot of clauses, left out when it is empty. -/
def slot? (name : String) : List Value → Entries
  | [] => []
  | vs => [(.text name, .list vs)]

def searchText : Value → String
  | .bool b => if b then "true" else "false"
  | .text s => s
  | v => v.plain

namespace Leaf

/-- A query without clauses, rendered. A raw query stands for itself. -/
def render : Leaf → Value
  | .field q =>
    named "query_string" (.map ([(.text "query", .text (searchText q.value)),
        (.text "default_field", .text q.field)]
      ++ argument? "analyze_wildcard" q.analyzeWildcard ++ argument? "boost" q.boost))
  | .text q =>
    named "query_string" (.map ([(.text "query", .text q.query)]
      ++ argument? "fields" (match q.field with
        | none => .null
        | some f => .list [.text f])
      ++ argument? "boost" q.boost))
  | .range q =>
    named "range" (named q.field (.map (argument? (if q.includeLower then "gte" else "gt") q.lower
      ++ argument? (if q.includeUpper then "lte" else "lt") q.upper ++ argument? "boost" q.boost)))
  | .fuzzy q =>
    named "fuzzy" (named q.field
      (.map ([(.text "value", .text q.value)] ++ argument? "boost" q.boost)))
  | .raw body => .map body

/-- Whether the text that a query searches by can be written out. -/
def isRenderable : Leaf → Bool
  | .field q => q.value.isWritable
  | _ => true

def render? (q : Leaf) : Except Failure Value :=
  if q.isRenderable then .ok q.render else .error .tooManyDigits

end Leaf

namespace Foreign

/-- Nothing renders as nothing, and nothing else is taken for a query. -/
def render? : Foreign → Except Failure Value
  | .value .null => .ok .null
  | x => .error (.request (.expression x.quoted))

end Foreign

namespace Query

mutual

/-- A query, rendered. -/
def render? : Query → Except Failure Value
  | .leaf q => q.render?
  | .foreign x => x.render?
  | .bool boost should mustNot must => do
    let should ← renderAll? should
    let mustNot ← renderAll? mustNot
    let must ← renderAll? must
    return named "bool" (.map (slot? "should" should ++ slot? "must_not" mustNot
      ++ slot? "must" must ++ argument? "boost" boost))

def renderAll? : List Query → Except Failure (List Value)
  | [] => .ok []
  | q :: qs => do
    let v ← render? q
    let vs ← renderAll? qs
    return v :: vs

end

end Query

def renderSort (terms : List SortTerm) : Value :=
  .list (terms.map fun t => named t.field (named "order" (.text t.direction.name)))

end SearchCriteria
