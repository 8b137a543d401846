import SearchCriteria.Decimal.Binary64

/-! Plain data: what a document holds, a builder is given and a rendered query consists of. -/
namespace SearchCriteria

/-- A day of the calendar. -/
structure Date where
  year : Nat
  month : Nat
  day : Nat
deriving DecidableEq, Repr, Inhabited

/-- A time of a day, with its distance from universal time in minutes where it is known. -/
structure Moment where
  date : Date
  hour : Nat
  minute : Nat
  second : Nat
  microsecond : Nat
  offset : Option Int
deriving DecidableEq, Repr, Inhabited

/-- Which object something is, among those of its kind. -/
inductive Handle where
  | node (i : Nat)
  | query (i : Nat)
  | search (i : Nat)
  | config (i : Nat)
  | compiler (i : Nat)
deriving DecidableEq, Repr, Inhabited

/-- What is known of an object from outside: which one it is, and how it is written. -/
structure Outline where
  handle : Handle
  kind : String
  text : String
  quoted : String
deriving DecidableEq, Repr, Inhabited

/-- A plain value. A map keeps the order in which its keys came, and a set that in which its
items come out; a stream can be read through once and has no other content. An object may
stand where a value may, and is known by its outline there. -/
inductive Value where
  | null
  | bool (b : Bool)
  | int (n : Int)
  | float (x : Binary64)
  | complex (real imaginary : Binary64)
  | text (s : String)
  | list (items : List Value)
  | tuple (items : List Value)
  | map (entries : List (Value × Value))
  | set (items : List Value)
  | bytes (bs : List UInt8)
  | date (d : Date)
  | moment (m : Moment)
  | stream (items : List Value)
  | object (o : Outline)
deriving Repr

abbrev Entries := List (Value × Value)

namespace Value

instance : Inhabited Value := ⟨null⟩

mutual

def decEq : (a b : Value) → Decidable (a = b)
  | .null, b => match b with
    | .null => isTrue rfl
    | .bool _ | .int _ | .float _ | .complex _ _ | .text _ | .list _ | .tuple _ | .map _
    | .set _ | .bytes _ | .date _ | .moment _ | .stream _ | .object _ => isFalse nofun
  | .bool x, b => match b with
    | .bool y => decidable_of_iff (x = y) ⟨congrArg _, bool.inj⟩
    | .null | .int _ | .float _ | .complex _ _ | .text _ | .list _ | .tuple _ | .map _
    | .set _ | .bytes _ | .date _ | .moment _ | .stream _ | .object _ => isFalse nofun
  | .int x, b => match b with
    | .int y => decidable_of_iff (x = y) ⟨congrArg _, int.inj⟩
    | .null | .bool _ | .float _ | .complex _ _ | .text _ | .list _ | .tuple _ | .map _
    | .set _ | .bytes _ | .date _ | .moment _ | .stream _ | .object _ => isFalse nofun
  | .float x, b => match b with
    | .float y => decidable_of_iff (x = y) ⟨congrArg _, float.inj⟩
    | .null | .bool _ | .int _ | .complex _ _ | .text _ | .list _ | .tuple _ | .map _
    | .set _ | .bytes _ | .date _ | .moment _ | .stream _ | .object _ => isFalse nofun
  | .complex x y, b => match b with
    | .complex u v => decidable_of_iff (x = u ∧ y = v)
      ⟨fun ⟨real, imaginary⟩ => congr (congrArg complex real) imaginary, complex.inj⟩
    | .null | .bool _ | .int _ | .float _ | .text _ | .list _ | .tuple _ | .map _ | .set _
    | .bytes _ | .date _ | .moment _ | .stream _ | .object _ => isFalse nofun
  | .text x, b => match b with
    | .text y => decidable_of_iff (x = y) ⟨congrArg _, text.inj⟩
    | .null | .bool _ | .int _ | .float _ | .complex _ _ | .list _ | .tuple _ | .map _
    | .set _ | .bytes _ | .date _ | .moment _ | .stream _ | .object _ => isFalse nofun
  | .list x, b => match b with
    | .list y => @decidable_of_iff _ (x = y) ⟨congrArg _, list.inj⟩ (decEqItems x y)
    | .null | .bool _ | .int _ | .float _ | .complex _ _ | .text _ | .tuple _ | .map _
    | .set _ | .bytes _ | .date _ | .moment _ | .stream _ | .object _ => isFalse nofun
  | .tuple x, b => match b with
    | .tuple y => @decidable_of_iff _ (x = y) ⟨congrArg _, tuple.inj⟩ (decEqItems x y)
    | .null | .bool _ | .int _ | .float _ | .complex _ _ | .text _ | .list _ | .map _
    | .set _ | .bytes _ | .date _ | .moment _ | .stream _ | .object _ => isFalse nofun
  | .map x, b => match b with
    | .map y => @decidable_of_iff _ (x = y) ⟨congrArg _, map.inj⟩ (decEqEntries x y)
    | .null | .bool _ | .int _ | .float _ | .complex _ _ | .text _ | .list _ | .tuple _
    | .set _ | .bytes _ | .date _ | .moment _ | .stream _ | .object _ => isFalse nofun
  | .set x, b => match b with
    | .set y => @decidable_of_iff _ (x = y) ⟨congrArg _, set.inj⟩ (decEqItems x y)
    | .null | .bool _ | .int _ | .float _ | .complex _ _ | .text _ | .list _ | .tuple _
    | .map _ | .bytes _ | .date _ | .moment _ | .stream _ | .object _ => isFalse nofun
  | .bytes x, b => match b with
    | .bytes y => decidable_of_iff (x = y) ⟨congrArg _, bytes.inj⟩
    | .null | .bool _ | .int _ | .float _ | .complex _ _ | .text _ | .list _ | .tuple _
    | .map _ | .set _ | .date _ | .moment _ | .stream _ | .object _ => isFalse nofun
  | .date x, b => match b with
    | .date y => decidable_of_iff (x = y) ⟨congrArg _, date.inj⟩
    | .null | .bool _ | .int _ | .float _ | .complex _ _ | .text _ | .list _ | .tuple _
    | .map _ | .set _ | .bytes _ | .moment _ | .stream _ | .object _ => isFalse nofun
  | .moment x, b => match b with
    | .moment y => decidable_of_iff (x = y) ⟨congrArg _, moment.inj⟩
    | .null | .bool _ | .int _ | .float _ | .complex _ _ | .text _ | .list _ | .tuple _
    | .map _ | .set _ | .bytes _ | .date _ | .stream _ | .object _ => isFalse nofun
  | .stream x, b => match b with
    | .stream y => @decidable_of_iff _ (x = y) ⟨congrArg _, stream.inj⟩ (decEqItems x y)
    | .null | .bool _ | .int _ | .float _ | .complex _ _ | .text _ | .list _ | .tuple _
    | .map _ | .set _ | .bytes _ | .date _ | .moment _ | .object _ => isFalse nofun
  | .object x, b => match b with
    | .object y => decidable_of_iff (x = y) ⟨congrArg _, object.inj⟩
    | .null | .bool _ | .int _ | .float _ | .complex _ _ | .text _ | .list _ | .tuple _
    | .map _ | .set _ | .bytes _ | .date _ | .moment _ | .stream _ => isFalse nofun

def decEqItems : (xs ys : List Value) → Decidable (xs = ys)
  | [], [] => isTrue rfl
  | [], _ :: _ | _ :: _, [] => isFalse nofun
  | x :: xs, y :: ys =>
    match decEq x y, decEqItems xs ys with
    | isTrue h, isTrue hs => isTrue (by rw [h, hs])
    | isFalse h, _ => isFalse fun e => h (List.cons.inj e).1
    | _, isFalse hs => isFalse fun e => hs (List.cons.inj e).2

def decEqEntries : (xs ys : List (Value × Value)) → Decidable (xs = ys)
  | [], [] => isTrue rfl
  | [], _ :: _ | _ :: _, [] => isFalse nofun
  | (k, v) :: xs, (k', v') :: ys =>
    match decEq k k', decEq v v', decEqEntries xs ys with
    | isTrue h, isTrue h', isTrue hs => isTrue (by rw [h, h', hs])
    | isFalse h, _, _ => isFalse fun e => h (Prod.mk.inj (List.cons.inj e).1).1
    | _, isFalse h, _ => isFalse fun e => h (Prod.mk.inj (List.cons.inj e).1).2
    | _, _, isFalse h => isFalse fun e => h (List.cons.inj e).2

end

instance : DecidableEq Value := decEq

/-- The integers that can be an index. -/
def indexRange : Int × Int := (-0x8000000000000000, 0x7fffffffffffffff)

def isIndex (n : Int) : Bool := indexRange.1 ≤ n && n ≤ indexRange.2

/-- Whether a value counts as true: anything but null, false, zero and what is empty. -/
def truthy : Value → Bool
  | .null => false
  | .bool b => b
  | .int n => n != 0
  | .float x => !x.isZero
  | .complex x y => !(x.isZero && y.isZero)
  | .text s => s != ""
  | .list xs | .tuple xs | .set xs => !xs.isEmpty
  | .map es => !es.isEmpty
  | .bytes bs => !bs.isEmpty
  | .date _ | .moment _ | .stream _ | .object _ => true

def isNull : Value → Bool
  | .null => true
  | _ => false

/-- The name of a value's kind, as error messages give it. -/
def kind : Value → String
  | .null => "NoneType"
  | .bool _ => "bool"
  | .int _ => "int"
  | .float _ => "float"
  | .complex _ _ => "complex"
  | .text _ => "str"
  | .list _ => "list"
  | .tuple _ => "tuple"
  | .map _ => "dict"
  | .set _ => "set"
  | .bytes _ => "bytes"
  | .date _ => "datetime.date"
  | .moment _ => "datetime.datetime"
  | .stream _ => "list_iterator"
  | .object o => o.kind

/-- The name of a value's kind without the family it belongs to. -/
def shortKind : Value → String
  | .date _ => "date"
  | .moment _ => "datetime"
  | v => v.kind

def ofFloat? : Option Binary64 → Value
  | some x => .float x
  | none => .null

def ofBool? : Option Bool → Value
  | some b => .bool b
  | none => .null

def ofText? : Option String → Value
  | some s => .text s
  | none => .null

end Value
end SearchCriteria
