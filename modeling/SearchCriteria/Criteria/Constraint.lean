import SearchCriteria.Criteria.Entry
import SearchCriteria.Text.Blank

/-! Conditions as they are asked for, and the entries that they become. -/
namespace SearchCriteria

/-- A condition on a field. -/
inductive Constraint where
  | equals (v : Value)
  | contains (v : Value)
  | startsWith (v : Value)
  | endsWith (v : Value)
  | expression (v : Value)
  | fuzzy (v : Value)
  | oneOf (v : Value)
  | between (lower upper : Value)
  | atMost (upper : Value)
  | atLeast (lower : Value)
deriving Repr

namespace Constraint

/-- A term with wildcards is one word. -/
def withoutBlank (v : Value) : Except Failure Value :=
  match v with
  | .text s => if hasBlank s then .error (.criteria (.blankInTerm s)) else .ok v
  | v => .ok v

/-- The values to choose from. What is one value by nature is not a collection. -/
def choices (v : Value) : Except Failure (List Value) :=
  match v with
  | .list xs | .tuple xs | .set xs | .stream xs => .ok xs
  | v => .error (.quoting v (.criteria (.notCollection v)))

/-- A range is open on at most one side. -/
def bounds (lower upper : Value) : Except Failure Entry :=
  if lower.isNull && upper.isNull then .error (.criteria .openRange)
  else .ok ⟨.between, .tuple [lower, upper]⟩

/-- The entry that a condition becomes. -/
def entry? : Constraint → Except Failure Entry
  | .equals v => .ok ⟨.equals, v⟩
  | .contains v => (withoutBlank v).map (⟨.contains, ·⟩)
  | .startsWith v => (withoutBlank v).map (⟨.startsWith, ·⟩)
  | .endsWith v => (withoutBlank v).map (⟨.endsWith, ·⟩)
  | .expression v => .ok ⟨.expression, v⟩
  | .fuzzy v => .ok ⟨.fuzzy, v⟩
  | .oneOf v => (choices v).map fun xs => ⟨.oneOf, .list xs⟩
  | .between lower upper => bounds lower upper
  | .atMost upper =>
    if upper.isNull then .error (.criteria .missingUpper)
    else .ok ⟨.between, .tuple [.null, upper]⟩
  | .atLeast lower =>
    if lower.isNull then .error (.criteria .missingLower)
    else .ok ⟨.between, .tuple [lower, .null]⟩

/-- The condition that an operation makes of a value in a document. -/
def ofOperation? (op : Operation) (v : Value) : Except Failure Constraint :=
  match op with
  | .equals => .ok (.equals v)
  | .contains => .ok (.contains v)
  | .startsWith => .ok (.startsWith v)
  | .endsWith => .ok (.endsWith v)
  | .expression => .ok (.expression v)
  | .fuzzy => .ok (.fuzzy v)
  | .oneOf => .ok (.oneOf v)
  | .between => match v with
    | .list [lower, upper] | .tuple [lower, upper] => .ok (.between lower upper)
    | v => .error (.quoting v (.criteria (.notPair v)))

end Constraint
end SearchCriteria
