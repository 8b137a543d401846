import SearchCriteria.Value.Equality

/-! Telling values apart by more than their content. What is not a number is numbered where it
enters, so that it is known again wherever it turns up, and of some values there is only one. -/
namespace SearchCriteria
namespace Value

mutual

/-- The value with a number of its own for each part that is not a number, from the next one
on that has not been given out. What has a number keeps it. Keys are compared when they have
been told apart. -/
def numbered (next : Nat) : Value → Nat × Value
  | .float (.nan 0) => (next + 1, .float (.nan next))
  | .list xs => let (n, ys) := numberedItems next xs; (n, .list ys)
  | .tuple xs => let (n, ys) := numberedItems next xs; (n, .tuple ys)
  | .set xs => let (n, ys) := numberedItems next xs; (n, .set ys)
  | .stream xs => let (n, ys) := numberedItems next xs; (n, .stream ys)
  | .map es => let (n, fs) := numberedEntries next es; (n, .map (Entries.ofList fs))
  | v => (next, v)

def numberedItems (next : Nat) : List Value → Nat × List Value
  | [] => (next, [])
  | x :: xs =>
    let (n, y) := numbered next x
    let (n, ys) := numberedItems n xs
    (n, y :: ys)

def numberedEntries (next : Nat) : List (Value × Value) → Nat × List (Value × Value)
  | [] => (next, [])
  | (k, v) :: es =>
    let (n, k) := numbered next k
    let (n, v) := numbered n v
    let (n, fs) := numberedEntries n es
    (n, (k, v) :: fs)

end

/-- Whether there is only one value of this content, however often it is made: nothing, the
truth values, small integers, and texts, bytes and tuples of hardly any length. -/
def isUnique : Value → Bool
  | .null | .bool _ | .tuple [] | .bytes [] | .bytes [_] => true
  | .int n => -5 ≤ n && n ≤ 256
  | .text s => match s.toList with
    | [] => true
    | [c] => c.toNat < 0x100
    | _ => false
  | _ => false

mutual

/-- Whether a copy of what a value is in has the value itself and not a copy of it. -/
def staysInCopy : Value → Bool
  | .null | .bool _ | .int _ | .float _ | .complex _ _ | .text _ | .bytes _ => true
  | .tuple xs => stayInCopy xs
  | _ => false

def stayInCopy : List Value → Bool
  | [] => true
  | x :: xs => staysInCopy x && stayInCopy xs

end

end Value
end SearchCriteria
