import SearchCriteria.Value.Equality
import SearchCriteria.Yaml.Node
import SearchCriteria.Yaml.Scalar

/-! Reading YAML texts of plain data. Values are made level by level, from the root on, and
the first node that stands for none decides why there is none for the document. -/
namespace SearchCriteria
namespace Yaml

/-- Why there is no value, and at which level it shows. -/
structure LevelFault where
  level : Nat
  fault : LoadFault
deriving DecidableEq, Repr

/-- A value, or the fault that shows first. -/
abbrev Made (α : Type) := Except LevelFault α

namespace Made

/-- Two values. Of two faults that of the upper level counts, or else the first. -/
def both {α β γ : Type} (f : α → β → γ) : Made α → Made β → Made γ
  | .ok a, .ok b => .ok (f a b)
  | .error e, .ok _ | .ok _, .error e => .error e
  | .error e, .error e' => .error (if e'.level < e.level then e' else e)

end Made

namespace Node

/-- The value of a scalar. As a key, the mark for a default value is its own text. -/
def scalarValue? (isKey plain : Bool) (text : String) : Except LoadFault Value :=
  if plain && !(isKey && text == "=") then plainValue? text else .ok (.text text)

/-- The value of a key. A list or a map cannot be one. -/
def keyValue? : Node → Except LoadFault Value
  | .scalar plain text => scalarValue? true plain text
  | _ => .error (.unread .malformed)

mutual

/-- The value that a node stands for, where its scalars are of a level. Of entries with equal
keys the last one counts. -/
def valueAt? (level : Nat) : Node → Made Value
  | .scalar plain text => (scalarValue? false plain text).mapError (⟨level, ·⟩)
  | .sequence items => (valuesAt? (level + 1) items).map .list
  | .mapping entries => (entriesAt? (level + 1) entries).map fun es => .map (Entries.ofList es)

def valuesAt? (level : Nat) : List Node → Made (List Value)
  | [] => .ok []
  | n :: ns => Made.both List.cons (valueAt? level n) (valuesAt? level ns)

def entriesAt? (level : Nat) : List (Node × Node) → Made Entries
  | [] => .ok []
  | (k, n) :: es =>
    Made.both (fun entry rest => entry :: rest)
      (Made.both Prod.mk ((keyValue? k).mapError (⟨level, ·⟩)) (valueAt? level n))
      (entriesAt? level es)

end

def value? (n : Node) : Except LoadFault Value := (n.valueAt? 0).mapError LevelFault.fault

end Node

def readNode? (cs : List Char) : Option Node := do Node.ofTokens? (← tokens? cs)

/-- The value that a text with a single document holds. -/
def read? (cs : List Char) : Except LoadFault Value :=
  match readNode? cs with
  | some n => n.value?
  | none => .error (.unread .malformed)

end Yaml
end SearchCriteria
