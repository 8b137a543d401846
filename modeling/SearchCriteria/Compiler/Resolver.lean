import SearchCriteria.Value.Access

/-! Resolvers: what makes the name of a document field out of a property. -/
namespace SearchCriteria

inductive Resolver where
  /-- Put a text in front. -/
  | prepend (text : String)
  /-- Answer the same for every property. -/
  | constant (v : Value)
  /-- Look a property up; one that is not there stands for itself. -/
  | rename (names : Entries)
  /-- Look a property up that has to be there. -/
  | require (names : Entries)
  /-- Whatever a function answers. -/
  | function (f : Value → Except Failure Value)

/-- The field that a property resolves to. -/
def Resolver.apply? (r : Resolver) (field : Value) : Except Failure Value :=
  match r with
  | .function f => f field
  | .prepend p => match field with
    | .text s => .ok (.text (p ++ s))
    | v => .error (.kind (.notAppendable v.kind))
  | .constant v => .ok v
  | .rename names => (Value.lookup? names field).map (·.getD field)
  | .require names => do
    match ← Value.lookup? names field with
    | some v => .ok v
    | none => .error (.missingKey field)

end SearchCriteria
