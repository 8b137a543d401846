import SearchCriteria.Value.Equality
import SearchCriteria.Failure

/-! What a value holds: its items one after the other, and the item in a place. -/
namespace SearchCriteria
namespace Value

def letters (s : String) : List Value := s.toList.map fun c => .text (String.singleton c)

/-- The items of a value in order. A map gives its keys, a text its characters, bytes
their numbers. -/
def items? : Value → Except Failure (List Value)
  | .list xs | .tuple xs | .set xs | .stream xs => .ok xs
  | .text s => .ok (letters s)
  | .bytes bs => .ok (bs.map fun b => .int b.toNat)
  | .map es => .ok (es.map Prod.fst)
  | v => .error (.kind (.notIterable v.kind))

/-- A place in a sequence; negative places count from its end. -/
def place? (size : Nat) (n : Int) : Option Nat :=
  let i := if n < 0 then n + size else n
  if 0 ≤ i && i < size then some i.toNat else none

/-- The item in a place, or a complaint about an index of that name. -/
def inPlace? {α : Type} (index : String) (xs : List α) (n : Int) : Except Failure α :=
  if !isIndex n then .error .indexTooLarge
  else match (place? xs.length n).bind (xs[·]?) with
    | some v => .ok v
    | none => .error (.outOfRange index)

/-- The item in a place: of a sequence by its position, of a map by the number as a key. -/
def item? (v : Value) (n : Int) : Except Failure Value :=
  match v with
  | .list xs => inPlace? "list index" xs n
  | .tuple xs => inPlace? "tuple index" xs n
  | .text s => inPlace? "string index" (letters s) n
  | .bytes bs => (inPlace? "index" bs n).map fun b => .int b.toNat
  | .map es =>
    match Entries.find? (.int n) es with
    | some v => .ok v
    | none => .error (.missingKey (.int n))
  | v => .error (.kind (.notSubscriptable v.kind))

/-- What a value holds, place by place: a map holds what its keys are mapped to. -/
def parts : Value → List Value
  | .list xs | .tuple xs => xs
  | .map es => es.map Prod.snd
  | _ => []

/-- The place of the item for a number, where the item is one of the parts of the value. -/
def partPlace? (v : Value) (n : Int) : Option Nat :=
  match v with
  | .map es => Entries.position? (.int n) es
  | v => place? v.parts.length n

/-- What a key is mapped to, where the key can be one at all. -/
def lookup? (es : Entries) (key : Value) : Except Failure (Option Value) :=
  match key.unhashable? with
  | some part => .error (.kind (.unhashable part.kind))
  | none => .ok (Entries.find? key es)

/-- The map with one more entry, where the key can be one. -/
def extend? (es : Entries) (key value : Value) : Except Failure Entries :=
  match key.unhashable? with
  | some part => .error (.kind (.unhashable part.kind))
  | none => .ok (Entries.insert key value es)

end Value
end SearchCriteria
