import SearchCriteria.Value.Access

/-! Entries of a criterion: an operation, and the value it compares with. -/
namespace SearchCriteria

/-- What an entry asks of its field. -/
inductive Operation where
  | equals
  | contains
  | startsWith
  | endsWith
  | expression
  | between
  | fuzzy
  | oneOf
deriving DecidableEq, Repr

namespace Operation

def all : List Operation :=
  [equals, contains, startsWith, endsWith, expression, between, fuzzy, oneOf]

/-- The name that stands for an operation in a document. -/
def name : Operation → String
  | equals => "equals"
  | contains => "contains"
  | startsWith => "starts_with"
  | endsWith => "ends_with"
  | expression => "expression"
  | between => "between"
  | fuzzy => "fuzzy"
  | oneOf => "in"

def title : Operation → String
  | equals => "EQUALS"
  | contains => "CONTAINS"
  | startsWith => "STARTS_WITH"
  | endsWith => "ENDS_WITH"
  | expression => "EXPRESSION"
  | between => "BETWEEN"
  | fuzzy => "FUZZY"
  | oneOf => "IN"

def ofName? (s : String) : Option Operation := all.find? (·.name == s)

def ofValue? : Value → Except Failure Operation
  | .text s => match ofName? s with
    | some op => .ok op
    | none => .error (.choice (.operation (.text s)))
  | v => .error (.quoting v (.choice (.operation v)))

def quoted (op : Operation) : String :=
  "<OperationKey." ++ op.title ++ ": '" ++ op.name ++ "'>"

theorem ofName?_name (op : Operation) : ofName? op.name = some op := by cases op <;> rfl

end Operation

/-- The text of a value in a printed query: a bound that is open is a star. -/
def termText : Value → String
  | .null => "*"
  | .bool b => if b then "true" else "false"
  | v => v.plain

/-- One condition on a field. A null value makes it no condition. -/
structure Entry where
  operation : Operation
  value : Value
deriving DecidableEq, Repr

namespace Entry

def text (e : Entry) : String := e.operation.name ++ "(" ++ termText e.value ++ ")"

def quoted (e : Entry) : String :=
  "CriteriaEntry(key=" ++ e.operation.quoted ++ ", value=" ++ e.value.quoted ++ ")"

def toPlain (e : Entry) : Value :=
  .map [(.text "key", .text e.operation.name), (.text "value", e.value)]

end Entry
end SearchCriteria
