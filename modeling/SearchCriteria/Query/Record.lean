import SearchCriteria.Query.Basic
import SearchCriteria.Validation.Rule

/-! Queries from records: which fields a kind of query has, and what each of them takes. -/
namespace SearchCriteria

/-- The boost that any kind of query but the raw one may have. -/
def boostField (es : Entries) : Checked Value :=
  (Entries.withDefault "boost" (Rule.optional Rule.number) none es).map Value.ofFloat?

namespace FieldQuery

def ofEntries (es : Entries) : Checked FieldQuery :=
  FieldQuery.mk <$> boostField es <*> Entries.required "field" Rule.text es
    <*> Entries.required "value" Rule.any es
    <*> (Entries.withDefault "analyze_wildcard" (Rule.optional Rule.flag) none es).map Value.ofBool?

end FieldQuery

namespace TextQuery

def ofEntries (es : Entries) : Checked TextQuery :=
  TextQuery.mk <$> boostField es <*> Entries.required "query" Rule.text es
    <*> Entries.withDefault "field" (Rule.optional Rule.text) none es

end TextQuery

namespace RangeQuery

def ofEntries (es : Entries) : Checked RangeQuery :=
  RangeQuery.mk <$> boostField es <*> Entries.required "field" Rule.text es
    <*> Entries.withDefault "from_" Rule.any .null es
    <*> Entries.withDefault "to" Rule.any .null es
    <*> Entries.withDefault "include_lower" Rule.flag true es
    <*> Entries.withDefault "include_upper" Rule.flag true es

end RangeQuery

namespace FuzzyQuery

def ofEntries (es : Entries) : Checked FuzzyQuery :=
  FuzzyQuery.mk <$> boostField es <*> Entries.required "field" Rule.text es
    <*> Entries.required "value" Rule.text es

end FuzzyQuery

namespace SortTerm

def ofEntries (es : Entries) : Checked SortTerm :=
  SortTerm.mk <$> Entries.required "field" Rule.text es
    <*> Entries.withDefault "direction" (Rule.member Direction.ofName?) .ascending es

end SortTerm

namespace Entry

def ofEntries (es : Entries) : Checked Entry :=
  Entry.mk <$> Entries.required "key" (Rule.member Operation.ofName?) es
    <*> Entries.withDefault "value" Rule.any .null es

end Entry

/-- The kinds of record that hold no clauses. -/
inductive RecordKind where
  | field
  | text
  | range
  | fuzzy
  | raw
  | sort
  | entry
deriving DecidableEq, Repr

namespace RecordKind

def name : RecordKind → String
  | field => "FieldQuery"
  | text => "QueryStringQuery"
  | range => "RangeQuery"
  | fuzzy => "FuzzyQuery"
  | raw => "RawQuery"
  | sort => "SortField"
  | entry => "CriteriaEntry"

def all : List RecordKind := [field, text, range, fuzzy, raw, sort, entry]

def ofName? (s : String) : Option RecordKind := all.find? (·.name == s)

/-- What the entries of a record of a kind describe. -/
def ofEntries (k : RecordKind) (es : Entries) : Checked Query :=
  match k with
  | field => (FieldQuery.ofEntries es).map fun q => .leaf (.field q)
  | text => (TextQuery.ofEntries es).map fun q => .leaf (.text q)
  | range => (RangeQuery.ofEntries es).map fun q => .leaf (.range q)
  | fuzzy => (FuzzyQuery.ofEntries es).map fun q => .leaf (.fuzzy q)
  | raw => (Entries.required "body" (Rule.table Rule.any) es).map fun b => .leaf (.raw b)
  | sort => (SortTerm.ofEntries es).map fun t => .foreign (.sort t)
  | entry => (SearchCriteria.Entry.ofEntries es).map fun e => .foreign (.entry e)

/-- What a value describes, when it is taken for a record of a kind. -/
def ofValue? (k : RecordKind) (v : Value) : Except Failure Query :=
  (Rule.record k.ofEntries v).orInvalid k.name

end RecordKind

/-- What is given for a slot of clauses: clauses, or a value. -/
inductive ClauseArg (α : Type) where
  | clauses (cs : List α)
  | value (v : Value)
deriving Repr

/-- The record of a query with clauses. -/
structure BoolRecord (α : Type) where
  boost : Option Value
  should : Option (ClauseArg α)
  mustNot : Option (ClauseArg α)
  must : Option (ClauseArg α)
deriving Repr

namespace BoolRecord

/-- A clause of no kind is told so by each kind in turn. -/
def noQuery {α : Type} : Checked α :=
  .bad (Query.kinds.map fun k => ⟨.notRecord, [.name k]⟩)

/-- The clauses of a slot, each of which has to be a query. -/
def slot {α : Type} (isQuery : α → Bool) (name : String) :
    Option (ClauseArg α) → Checked (List α)
  | none => .ok []
  | some (.clauses cs) =>
    (Checked.all (cs.mapIdx fun i c =>
      (if isQuery c then .ok c else noQuery : Checked α).within (.index i))).within (.name name)
  | some (.value v) => (Rule.items (fun _ => noQuery) v).within (.name name)

def check {α : Type} (isQuery : α → Bool) (r : BoolRecord α) :
    Checked (Value × List α × List α × List α) :=
  (fun b s n m => (b, s, n, m)) <$> boostField (match r.boost with
      | none => []
      | some v => [(.text "boost", v)])
    <*> slot isQuery "should" r.should <*> slot isQuery "must_not" r.mustNot
    <*> slot isQuery "must" r.must

def ofEntries {α : Type} (es : Entries) : BoolRecord α :=
  let arg (name : String) := (Entries.named? name es).map ClauseArg.value
  ⟨Entries.named? "boost" es, arg "should", arg "must_not", arg "must"⟩

end BoolRecord
end SearchCriteria
