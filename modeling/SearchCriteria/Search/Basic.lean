import SearchCriteria.Criteria.Document
import SearchCriteria.Query.Record

/-! Search requests: a chain to be compiled, and what is asked for besides. What a request
refers to, nodes and filters, may be held in it or be handles into a store. -/
namespace SearchCriteria

structure Search (ν φ : Type) where
  criteria : Option ν
  filter : Option φ
  fields : List Value
  sort : List SortTerm
  minScore : Value
  indices : List Value
deriving Repr

namespace Search
variable {ν φ : Type}

def empty : Search ν φ := ⟨none, none, [], [], .null, []⟩

instance : Inhabited (Search ν φ) := ⟨empty⟩

/-- Fields and indices are added to those that are there, whatever they are. -/
def withFields (s : Search ν φ) (names : List Value) : Search ν φ :=
  { s with fields := s.fields ++ names }

def withIndices (s : Search ν φ) (names : List Value) : Search ν φ :=
  { s with indices := s.indices ++ names }

def withFilter (s : Search ν φ) (filter : Option φ) : Search ν φ := { s with filter }

/-- The term that sorts by a field. The direction is looked at before the field is. -/
def sortTerm? (field direction : Value) : Except Failure SortTerm := do
  let d ← Direction.ofValue? direction
  (SortTerm.ofEntries [(.text "field", field), (.text "direction", .text d.name)]).orInvalid
    RecordKind.sort.name

def withSort? (s : Search ν φ) (field direction : Value) : Except Failure (Search ν φ) :=
  (sortTerm? field direction).map fun t => { s with sort := s.sort ++ [t] }

/-- Whether a value is below zero, for values that can be compared with zero. -/
def isNegative? : Value → Except Failure Bool
  | .bool _ => .ok false
  | .int n => .ok (n < 0)
  | .float x => .ok x.isNegative
  | v => .error (.kind (.notComparable v.kind))

def withMinScore? (s : Search ν φ) (score : Value) : Except Failure (Search ν φ) := do
  if ← isNegative? score then .error (.request .minScore) else .ok { s with minScore := score }

/-- The filter that a value stands for: a map is a raw query, null is none, and anything
else is kept for what it is. -/
def filterOf? : Value → Except Failure (Option Query)
  | .null => .ok none
  | .map es => (RecordKind.raw.ofValue? (.map [(.text "body", .map es)])).map some
  | v => .ok (some (.foreign (.value v)))

end Search

/-- What is given for the filter of a request. -/
inductive FilterArg (φ : Type) where
  | query (q : φ)
  | value (v : Value)
deriving Repr

/-- What is given for the chain of a request. -/
inductive CriteriaArg (ν : Type) where
  | node (n : ν)
  | value (v : Value)
deriving Repr

/-- What is given for one term of an order. -/
inductive SortArg where
  | term (t : SortTerm)
  | value (v : Value)
deriving Repr

/-- The record of a request. -/
structure SearchRecord (ν φ : Type) where
  criteria : Option (CriteriaArg ν)
  filter : Option (FilterArg φ)
  fields : Option Value
  sort : Option (ClauseArg SortArg)
  minScore : Option Value
  indices : Option Value
deriving Repr

namespace SearchRecord
variable {ν φ : Type}

def criteriaField : Option (CriteriaArg ν) → Checked (Option ν)
  | none | some (.value .null) => .ok none
  | some (.node n) => .ok (some n)
  | some (.value _) => .bad [⟨.wrongClass, [.name "criteria"]⟩]

def filterField (isQuery : φ → Bool) : Option (FilterArg φ) → Checked (Option φ)
  | none | some (.value .null) => .ok none
  | some (.query q) =>
    if isQuery q then .ok (some q) else (BoolRecord.noQuery : Checked _).within (.name "filter")
  | some (.value _) => (BoolRecord.noQuery : Checked _).within (.name "filter")

def sortRule : Rule SortTerm := Rule.record SortTerm.ofEntries

def sortField : Option (ClauseArg SortArg) → Checked (List SortTerm)
  | none => .ok []
  | some (.clauses args) =>
    (Checked.all (args.mapIdx fun i a =>
      (match a with
        | .term t => .ok t
        | .value v => sortRule v : Checked SortTerm).within (.index i))).within (.name "sort")
  | some (.value v) => (Rule.items sortRule v).within (.name "sort")

def namesField (name : String) : Option Value → Checked (List Value)
  | none => .ok []
  | some v => (Rule.items (fun x => (Rule.text x).map Value.text) v).within (.name name)

def check (isQuery : φ → Bool) (r : SearchRecord ν φ) : Checked (Search ν φ) :=
  Search.mk <$> criteriaField r.criteria <*> filterField isQuery r.filter
    <*> namesField "fields" r.fields <*> sortField r.sort
    <*> (match r.minScore with
      | none => .ok .null
      | some v => ((Rule.optional Rule.number v).map Value.ofFloat?).within (.name "min_score"))
    <*> namesField "indices" r.indices

def ofEntries (es : Entries) : SearchRecord ν φ where
  criteria := (Entries.named? "criteria" es).map .value
  filter := (Entries.named? "filter" es).map .value
  fields := Entries.named? "fields" es
  sort := (Entries.named? "sort" es).map .value
  minScore := Entries.named? "min_score" es
  indices := Entries.named? "indices" es

end SearchRecord

def Search.modelName : String := "CriteriaQuery"

namespace Search

/-- A call that adds to a request. -/
inductive Call where
  | filter (arg : FilterArg Query)
  | fields (names : List Value)
  | sort (field direction : Value)
  | minScore (score : Value)
  | indices (names : List Value)
deriving Repr

variable {ν : Type}

/-- The request after a call, if the call is not refused. -/
def call (s : Search ν Query) : Call → Except Failure (Search ν Query)
  | .filter (.query q) => .ok (s.withFilter (some q))
  | .filter (.value v) => (filterOf? v).map s.withFilter
  | .fields names => .ok (s.withFields names)
  | .sort field direction => s.withSort? field direction
  | .minScore score => s.withMinScore? score
  | .indices names => .ok (s.withIndices names)

/-- The request after a call; a call that is refused leaves it as it was. -/
def after (s : Search ν Query) (c : Call) : Search ν Query :=
  match s.call c with
  | .ok t => t
  | .error _ => s

def run (s : Search ν Query) (cs : List Call) : Search ν Query := cs.foldl after s

end Search
end SearchCriteria
