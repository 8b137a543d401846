import SearchCriteria.Criteria.Constraint
import SearchCriteria.Value.Printer

/-! A criterion: conditions on one field, and the part it takes in its chain. -/
namespace SearchCriteria

/-- A node of a chain, apart from the chain. Its boost is NaN while none is set. -/
structure Criterion where
  field : Value
  entries : List Entry
  boost : Binary64
  isOr : Bool
  negating : Bool
deriving DecidableEq, Repr, Inhabited

namespace Criterion

def start (field : Value) (isOr : Bool) : Criterion := ⟨field, [], .plainNaN, isOr, false⟩

def hasBoost (c : Criterion) : Bool := !c.boost.isNaN

/-- The boost that a value stands for: a number that is not negative. -/
def boostOf? : Value → Except Failure Binary64
  | .int n =>
    if n < 0 then .error (.criteria .negativeBoost)
    else match Binary64.ofInt? n with
      | some x => .ok x
      | none => .error .overflow
  | .float x => if x.isNegative then .error (.criteria .negativeBoost) else .ok x
  | v => .error (.quoting v (.criteria (.boostNotNumber v)))

def withEntry (c : Criterion) (e : Entry) : Criterion := { c with entries := c.entries ++ [e] }

def constrain? (c : Criterion) (k : Constraint) : Except Failure Criterion :=
  k.entry?.map c.withEntry

def boostBy? (c : Criterion) (v : Value) : Except Failure Criterion :=
  (boostOf? v).map fun x => { c with boost := x }

def negated (c : Criterion) : Criterion := { c with negating := true }

def text (c : Criterion) : String :=
  (if c.isOr then "OR " else "") ++ (if c.negating then "NOT " else "") ++ c.field.plain ++ " "
    ++ String.intercalate " AND " (c.entries.map Entry.text)

def quoted (c : Criterion) : String :=
  "Criteria(field=" ++ c.field.quoted
    ++ ", entries=[" ++ String.intercalate ", " (c.entries.map Entry.quoted)
    ++ "], boost=" ++ (Value.float c.boost).quoted
    ++ ", is_or=" ++ (Value.bool c.isOr).quoted
    ++ ", is_negating=" ++ (Value.bool c.negating).quoted ++ ")"

end Criterion
end SearchCriteria
