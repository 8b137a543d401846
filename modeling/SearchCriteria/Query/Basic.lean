import SearchCriteria.Criteria.Entry

/-! Query expressions: what a chain is compiled into and what is rendered for the search
engine. A boost is kept as the value it was given as, and is null while none is set. -/
namespace SearchCriteria

/-- A value in a field. It may carry wildcards, and a flag for them, which is null while none
is set. -/
structure FieldQuery where
  boost : Value
  field : String
  value : Value
  analyzeWildcard : Value
deriving DecidableEq, Repr

/-- An expression in the engine's own query language, scoped to a field or not. -/
structure TextQuery where
  boost : Value
  query : String
  field : Option String
deriving DecidableEq, Repr

/-- A range; a null bound leaves its side open. -/
structure RangeQuery where
  boost : Value
  field : String
  lower : Value
  upper : Value
  includeLower : Bool
  includeUpper : Bool
deriving DecidableEq, Repr

/-- A value within some edit distance. -/
structure FuzzyQuery where
  boost : Value
  field : String
  value : String
deriving DecidableEq, Repr

/-- The order in which documents are listed. -/
inductive Direction where
  | ascending
  | descending
deriving DecidableEq, Repr

structure SortTerm where
  field : String
  direction : Direction
deriving DecidableEq, Repr

/-- A query without clauses. -/
inductive Leaf where
  | field (q : FieldQuery)
  | text (q : TextQuery)
  | range (q : RangeQuery)
  | fuzzy (q : FuzzyQuery)
  | raw (body : Entries)
deriving DecidableEq, Repr

/-- What may stand where a query is expected, and is none. -/
inductive Foreign where
  | value (v : Value)
  | entry (e : SearchCriteria.Entry)
  | sort (t : SortTerm)
deriving DecidableEq, Repr

/-- A query expression. Of the clauses any in the first list may match, none in the second
and all in the third. -/
inductive Query where
  | leaf (q : Leaf)
  | bool (boost : Value) (should mustNot must : List Query)
  | foreign (x : Foreign)
deriving Repr

namespace Direction

def name : Direction → String
  | ascending => "asc"
  | descending => "desc"

def title : Direction → String
  | ascending => "ASC"
  | descending => "DESC"

def all : List Direction := [ascending, descending]

def ofName? (s : String) : Option Direction := all.find? (·.name == s)

def ofValue? : Value → Except Failure Direction
  | .text s => match ofName? s with
    | some d => .ok d
    | none => .error (.choice (.direction (.text s)))
  | v => .error (.quoting v (.choice (.direction v)))

def quoted (d : Direction) : String := "<SortDirection." ++ d.title ++ ": '" ++ d.name ++ "'>"

end Direction

namespace Leaf

/-- The kind of a query, by which messages name it. -/
def kind : Leaf → String
  | .field _ => "FieldQuery"
  | .text _ => "QueryStringQuery"
  | .range _ => "RangeQuery"
  | .fuzzy _ => "FuzzyQuery"
  | .raw _ => "RawQuery"

/-- The query with another boost; a raw query has no place for one. -/
def withBoost? (boost : Value) : Leaf → Option Leaf
  | .field q => some (.field { q with boost })
  | .text q => some (.text { q with boost })
  | .range q => some (.range { q with boost })
  | .fuzzy q => some (.fuzzy { q with boost })
  | .raw _ => none

end Leaf

namespace Leaf

def boost : Leaf → Value
  | .field q => q.boost
  | .text q => q.boost
  | .range q => q.boost
  | .fuzzy q => q.boost
  | .raw _ => .null

def fields : Leaf → List (String × Value)
  | .field q => [("boost", q.boost), ("field", .text q.field), ("value", q.value),
      ("analyze_wildcard", q.analyzeWildcard)]
  | .text q => [("boost", q.boost), ("query", .text q.query), ("field", .ofText? q.field)]
  | .range q => [("boost", q.boost), ("field", .text q.field), ("from_", q.lower),
      ("to", q.upper), ("include_lower", .bool q.includeLower),
      ("include_upper", .bool q.includeUpper)]
  | .fuzzy q => [("boost", q.boost), ("field", .text q.field), ("value", .text q.value)]
  | .raw body => [("body", .map body)]

end Leaf

namespace Foreign

def kind : Foreign → String
  | .value v => v.kind
  | .entry _ => "CriteriaEntry"
  | .sort _ => "SortField"

end Foreign

namespace Query

instance : Inhabited Query := ⟨.foreign (.value .null)⟩

def kind : Query → String
  | .leaf q => q.kind
  | .bool .. => "BoolQuery"
  | .foreign x => x.kind

def kinds : List String :=
  ["FieldQuery", "QueryStringQuery", "RangeQuery", "FuzzyQuery", "BoolQuery", "RawQuery"]

def withBoost? (boost : Value) : Query → Option Query
  | .leaf q => (q.withBoost? boost).map .leaf
  | .bool _ should mustNot must => some (.bool boost should mustNot must)
  | .foreign _ => none

mutual

/-- The expression with other values where values stand for queries. -/
def mapValues (f : Value → Value) : Query → Query
  | .leaf q => .leaf q
  | .foreign (.value v) => .foreign (.value (f v))
  | .foreign x => .foreign x
  | .bool boost should mustNot must =>
    .bool boost (mapAllValues f should) (mapAllValues f mustNot) (mapAllValues f must)

def mapAllValues (f : Value → Value) : List Query → List Query
  | [] => []
  | q :: qs => mapValues f q :: mapAllValues f qs

end

end Query
end SearchCriteria
