import SearchCriteria.Decimal.Reader
import SearchCriteria.Failure
import SearchCriteria.Text.Blank
import SearchCriteria.Text.Utf8
import SearchCriteria.Value.Equality

/-! Rules for the fields of a record. They are lenient: a rule takes every value that
stands for what it wants. A record that breaks several rules is told all of them. -/
namespace SearchCriteria

/-- A result, or everything that keeps it from being one. -/
inductive Checked (α : Type) where
  | ok (a : α)
  | bad (issues : List Issue)
deriving Repr

namespace Checked

def map {α β : Type} (f : α → β) : Checked α → Checked β
  | ok a => ok (f a)
  | bad is => bad is

/-- Both parts are looked at, also when the first is bad. -/
def seq {α β : Type} : Checked (α → β) → Checked α → Checked β
  | ok f, ok a => ok (f a)
  | ok _, bad is => bad is
  | bad is, ok _ => bad is
  | bad is, bad js => bad (is ++ js)

instance : Applicative Checked where
  pure := ok
  map := map
  seq f a := seq f (a ())

/-- A complaint about the value itself. -/
def refuse {α : Type} (c : Complaint) : Checked α := bad [⟨c, []⟩]

/-- The result for a part of a record, seen from the record. -/
def within {α : Type} (step : PathStep) : Checked α → Checked α
  | ok a => ok a
  | bad is => bad (is.map (Issue.within step))

/-- All results, or all issues, in order. -/
def all {α : Type} : List (Checked α) → Checked (List α)
  | [] => ok []
  | c :: cs => seq (map List.cons c) (all cs)

def orInvalid {α : Type} (model : String) : Checked α → Except Failure α
  | ok a => .ok a
  | bad is => .error (.invalid model is)

end Checked

/-- What a field takes from a value. -/
abbrev Rule (α : Type) := Value → Checked α

namespace Rule

def any : Rule Value := .ok

def text : Rule String
  | .text s => .ok s
  | .bytes bs => match decodeUtf8? bs with
    | some s => .ok s
    | none => .refuse .textEncoding
  | _ => .refuse .notText

/-- Whether an underscore stands at neither end nor beside another one. -/
def underscoresSeparate (cs : List Char) : Bool := (cs.splitOn '_').all (!·.isEmpty)

/-- A number in a text. White space may surround it, or underscores may separate what it is
made of. -/
def numberInText (s : String) : Checked Binary64 :=
  let cs := s.toList
  let separated := if underscoresSeparate cs then Binary64.read? (cs.filter (· != '_')) else none
  match (Binary64.read? (trimPadding cs)).or separated with
  | some x => .ok x
  | none => .refuse .unreadableFloat

/-- A number, or a text or bytes that spell one. -/
def number : Rule Binary64
  | .float x => .ok x
  | .bool b => .ok (.ofBool b)
  | .int n => match Binary64.ofInt? n with
    | some x => .ok x
    | none => .refuse .notFloat
  | .text s => numberInText s
  | .bytes bs => match decodeUtf8? bs with
    | some s => numberInText s
    | none => .refuse .unreadableFloat
  | _ => .refuse .notFloat

def flagInText (s : String) : Checked Bool :=
  let word := String.ofList (s.toList.map Char.toLower)
  if ["0", "f", "n", "no", "off", "false"].contains word then .ok false
  else if ["1", "t", "y", "yes", "on", "true"].contains word then .ok true
  else .refuse .unreadableBool

/-- The magnitude from which on a float is not read as an integer. -/
def integralBound : Nat := 0x8000000000000000

/-- A truth value, zero or one, or a word for either. Any other integer of ordinary size is
misread, and what is out of size is not read at all. -/
def flag : Rule Bool
  | .bool b => .ok b
  | .int n =>
    if n == 0 then .ok false
    else if n == 1 then .ok true
    else if Value.isIndex n then .refuse .unreadableBool
    else .refuse .notBool
  | .float x =>
    if x.equalInt 0 then .ok false
    else if x.equalInt 1 then .ok true
    else if x.isIntegralBelow integralBound then .refuse .unreadableBool
    else .refuse .notBool
  | .text s => flagInText s
  | .bytes bs => match decodeUtf8? bs with
    | some s => flagInText s
    | none => .refuse .unreadableBool
  | _ => .refuse .notBool

/-- One of a set of named members, by its name in a text or in bytes. -/
def member {α : Type} (ofName? : String → Option α) : Rule α := fun v =>
  match text v with
  | .ok s => match ofName? s with
    | some a => .ok a
    | none => .refuse .notMember
  | .bad _ => .refuse .notMember

/-- Null, or what the rule takes. -/
def optional {α : Type} (r : Rule α) : Rule (Option α)
  | .null => .ok none
  | v => (r v).map some

/-- The items of a list, a tuple, a set or a stream, each by its rule. -/
def items {α : Type} (r : Rule α) : Rule (List α)
  | .list xs | .tuple xs | .set xs | .stream xs =>
    .all (xs.mapIdx fun i x => (r x).within (.index i))
  | _ => .refuse .notList

/-- The entries of a map whose keys are texts. An issue with a key is told from one with
the value it is mapped to. -/
def table (r : Rule Value) : Rule Entries
  | .map es =>
    let entry (e : Value × Value) : Checked (Value × Value) :=
      let key := ((text e.1).within (.name "[key]")).within (.ofKey e.1)
      Checked.seq (key.map fun k v => (.text k, v)) ((r e.2).within (.ofKey e.1))
    (Checked.all (es.map entry)).map Entries.ofList
  | _ => .refuse .notMap

def record {α : Type} (r : Entries → Checked α) : Rule α
  | .map es => r es
  | _ => .refuse .notRecord

end Rule

namespace Entries

def required {α : Type} (name : String) (r : Rule α) (es : Entries) : Checked α :=
  match named? name es with
  | some v => (r v).within (.name name)
  | none => .bad [⟨.missing, [.name name]⟩]

def withDefault {α : Type} (name : String) (r : Rule α) (a : α) (es : Entries) : Checked α :=
  match named? name es with
  | some v => (r v).within (.name name)
  | none => .ok a

end Entries
end SearchCriteria
