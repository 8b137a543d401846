import SearchCriteria.Text.Quoted
import SearchCriteria.Decimal.Reader
import SearchCriteria.Decimal.Shortest
import SearchCriteria.Value.Basic

/-! The text of a value, and its quoted form, in which a text is told from what it spells.
An integer has a text of any length, but only those up to a length are written out. -/
namespace SearchCriteria

/-- Numbers have their shortest digits, in positional notation from `1e-4` to below `1e16`. -/
def plainNumbers : DecimalLayout :=
  { positionalFrom := -4, positionalUntil := 16, nan := "nan", infinity := "inf" }

def paddedNat (width n : Nat) : String :=
  String.ofList ((Nat.toDigits 10 n).leftpad width '0')

namespace Date

def text (d : Date) : String :=
  s!"{paddedNat 4 d.year}-{paddedNat 2 d.month}-{paddedNat 2 d.day}"

def quoted (d : Date) : String := s!"datetime.date({d.year}, {d.month}, {d.day})"

end Date

namespace Moment

def offsetText (minutes : Int) : String :=
  let n := minutes.natAbs
  (if minutes < 0 then "-" else "+") ++ s!"{paddedNat 2 (n / 60)}:{paddedNat 2 (n % 60)}"

def text (m : Moment) : String :=
  let fraction := if m.microsecond == 0 then "" else "." ++ paddedNat 6 m.microsecond
  s!"{m.date.text} {paddedNat 2 m.hour}:{paddedNat 2 m.minute}:{paddedNat 2 m.second}"
    ++ fraction ++ (m.offset.map offsetText).getD ""

/-- A distance is a count of days that may be negative and of seconds that may not. -/
def quotedOffset (minutes : Int) : String :=
  if minutes == 0 then "datetime.timezone.utc"
  else
    let days := minutes.fdiv 1440
    let seconds := minutes.fmod 1440 * 60
    let parts := (if days == 0 then [] else [s!"days={days}"])
      ++ (if seconds == 0 then [] else [s!"seconds={seconds}"])
    "datetime.timezone(datetime.timedelta(" ++ String.intercalate ", " parts ++ "))"

/-- Seconds are left out when there are none. -/
def quoted (m : Moment) : String :=
  let parts := [m.date.year, m.date.month, m.date.day, m.hour, m.minute]
    ++ (if m.second == 0 && m.microsecond == 0 then [] else [m.second])
    ++ (if m.microsecond == 0 then [] else [m.microsecond])
  let zone := match m.offset with
    | none => ""
    | some o => ", tzinfo=" ++ quotedOffset o
  "datetime.datetime(" ++ String.intercalate ", " (parts.map toString) ++ zone ++ ")"

end Moment

/-- A part of a complex number has no fraction where it is whole. -/
def partText (x : Binary64) : String :=
  match (plainNumbers.text x).toList.reverse with
  | '0' :: '.' :: cs => String.ofList cs.reverse
  | cs => String.ofList cs.reverse

/-- A complex number without a real part is written as its imaginary part alone. -/
def complexText (x y : Binary64) : String :=
  let imaginary := partText y ++ "j"
  if x = .zero false then imaginary
  else
    let sign := if imaginary.toList.head? = some '-' then "" else "+"
    "(" ++ (partText x ++ sign ++ imaginary) ++ ")"

namespace Value

mutual

def quoted : Value → String
  | .null => "None"
  | .bool b => if b then "True" else "False"
  | .int n => toString n
  | .float x => plainNumbers.text x
  | .complex x y => complexText x y
  | .text s => quotedText s
  | .list xs => "[" ++ String.intercalate ", " (quotedItems xs) ++ "]"
  | .tuple [x] => "(" ++ quoted x ++ ",)"
  | .tuple xs => "(" ++ String.intercalate ", " (quotedItems xs) ++ ")"
  | .map es => "\x7b" ++ String.intercalate ", " (quotedEntries es) ++ "\x7d"
  | .set [] => "set()"
  | .set xs => "\x7b" ++ String.intercalate ", " (quotedItems xs) ++ "\x7d"
  | .bytes bs => quotedBytes bs
  | .date d => d.quoted
  | .moment m => m.quoted
  | .stream _ => "<list_iterator object>"
  | .object o => o.quoted

def quotedItems : List Value → List String
  | [] => []
  | x :: xs => quoted x :: quotedItems xs

def quotedEntries : List (Value × Value) → List String
  | [] => []
  | (k, v) :: es => (quoted k ++ ": " ++ quoted v) :: quotedEntries es

end

/-- The text of a value: a text is its own, and only inside a container is it quoted. -/
def plain : Value → String
  | .text s => s
  | .date d => d.text
  | .moment m => m.text
  | .object o => o.text
  | v => v.quoted

/-- The magnitude from which on an integer has more digits than are written out. -/
def unwrittenFrom : Nat := Nat.pow 10 maxDigits

def isWritableInt (n : Int) : Bool := n.natAbs < unwrittenFrom

mutual

/-- Whether a value can be written out: no integer in it is too long. -/
def isWritable : Value → Bool
  | .int n => isWritableInt n
  | .list xs | .tuple xs | .set xs => areWritable xs
  | .map es => entriesWritable es
  | .null | .bool _ | .float _ | .complex _ _ | .text _ | .bytes _ | .date _ | .moment _
  | .stream _ | .object _ => true

def areWritable : List Value → Bool
  | [] => true
  | x :: xs => isWritable x && areWritable xs

def entriesWritable : List (Value × Value) → Bool
  | [] => true
  | (k, v) :: es => isWritable k && isWritable v && entriesWritable es

end

end Value
end SearchCriteria
