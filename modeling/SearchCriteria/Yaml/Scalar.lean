import SearchCriteria.Decimal.Arithmetic
import SearchCriteria.Decimal.Reader
import SearchCriteria.Failure
import SearchCriteria.Json.Reader
import SearchCriteria.Value.Calendar

/-! What plain scalars of YAML texts stand for: nothing, a truth value, a number, a day or a
time, where they are written like one, and else their text. -/
namespace SearchCriteria
namespace Yaml

/-- The value of a scalar that is written like one, or the reason why there is none, as for a
day of a month that has not so many. -/
abbrev Reading := Option (Except LoadFault Value)

def existing : Option Value → Except LoadFault Value
  | some v => .ok v
  | none => .error (.unread .malformed)

def nullWords : List String := ["", "~", "null", "Null", "NULL"]

def trueWords : List String :=
  ["yes", "Yes", "YES", "true", "True", "TRUE", "on", "On", "ON"]

def falseWords : List String :=
  ["no", "No", "NO", "false", "False", "FALSE", "off", "Off", "OFF"]

def withoutUnderscores (cs : List Char) : List Char := cs.filter (· != '_')

def natInBase (base : Nat) (cs : List Char) : Nat :=
  cs.foldl (fun n c => base * n + (Json.hexValue? c).getD 0) 0

def colonParts (cs : List Char) : List (List Char) := cs.splitOn ':'

/-- A part of a number to the base of sixty: at most two digits, the first of two below six. -/
def isSixty : List Char → Bool
  | [d] => d.isDigit
  | [c, d] => '0' ≤ c && c ≤ '5' && d.isDigit
  | _ => false

def isDigitOrBar (c : Char) : Bool := c.isDigit || c == '_'

/-- An integer without its sign, if it is written like one. -/
def natReading (cs : List Char) : Option (Option Nat) :=
  let valued (base : Nat) (ds : List Char) : Option (Option Nat) :=
    let ds := withoutUnderscores ds
    some (if ds.isEmpty || (base == 10 && maxDigits < ds.length) then none
      else some (natInBase base ds))
  match cs with
  | [] => none
  | ['0'] => some (some 0)
  | '0' :: 'b' :: ds =>
    if !ds.isEmpty && ds.all (fun c => c == '0' || c == '1' || c == '_') then valued 2 ds else none
  | '0' :: 'x' :: ds =>
    if !ds.isEmpty && ds.all (fun c => (Json.hexValue? c).isSome || c == '_') then valued 16 ds
    else none
  | '0' :: ds =>
    if ds.all (fun c => ('0' ≤ c && c ≤ '7') || c == '_') then valued 8 ('0' :: ds) else none
  | c :: _ =>
    if !c.isDigit then none
    else match colonParts cs with
      | [ds] => if ds.all isDigitOrBar then valued 10 ds else none
      | ds :: more =>
        if ds.all isDigitOrBar && more.all isSixty then
          let first := withoutUnderscores ds
          some (if maxDigits < first.length then none
            else some (more.foldl (fun n p => 60 * n + natOfDigits p) (natOfDigits first)))
        else none
      | [] => none

def intReading (cs : List Char) : Reading :=
  let (negative, rest) := spanSign cs
  (natReading rest).map fun n? =>
    existing (n?.map fun (n : Nat) => .int (if negative then -(n : Int) else n))

/-- An exponent, which has to have a sign here; no text is none. -/
def signedExponent? : List Char → Option Int
  | [] => some 0
  | e :: s :: ds =>
    if (e == 'e' || e == 'E') && (s == '+' || s == '-') && !ds.isEmpty && ds.all Char.isDigit then
      some (if s == '-' then -(natOfDigits ds : Int) else natOfDigits ds)
    else none
  | _ => none

/-- Digits on both sides of a point, times a power of ten. -/
def pointNumber (negative : Bool) (whole : Nat) (fraction : List Char) (e : Int) : Binary64 :=
  .ofDecimal negative (whole * Nat.pow 10 fraction.length + natOfDigits fraction)
    (e - fraction.length)

def pointNumber? (negative : Bool) (whole : Nat) (cs : List Char) : Option Binary64 :=
  (signedExponent? (cs.dropWhile isDigitOrBar)).map fun e =>
    (pointNumber negative whole (withoutUnderscores (cs.takeWhile isDigitOrBar)) e)

/-- The number whose parts to the base of sixty are given, the last one first. Each step of
the sum is rounded, and no power of the base may be out of range. -/
def sumOfSixties? (base : Nat) (sum : Binary64) : List Binary64 → Option Binary64
  | [] => some sum
  | part :: parts => do
    let power ← Binary64.ofInt? base
    sumOfSixties? (60 * base) (sum.add (part.mul power)) parts

/-- A number whose parts to the base of sixty come before a point. -/
def sixtiesNumber? (negative : Bool) (parts : List Nat) (fraction : List Char) :
    Except LoadFault Binary64 :=
  let parts := match parts.reverse with
    | [] => []
    | last :: others =>
      pointNumber false last fraction 0 :: others.map fun n => .ofDecimal false n 0
  match sumOfSixties? 1 (.zero false) parts with
  | some sum => .ok (if negative then sum.negate else sum)
  | none => .error (.raised .overflow)

/-- A float, which is known by its point. One that starts with it has no sign. -/
def floatReading (cs : List Char) : Option (Except LoadFault Binary64) :=
  let (negative, rest) := spanSign cs
  match rest with
  | '.' :: ds =>
    if [".inf", ".Inf", ".INF"].contains (String.ofList rest) then
      some (.ok (.infinite negative))
    else if [".nan", ".NaN", ".NAN"].contains (String.ofList cs) then some (.ok .plainNaN)
    else if cs.head? == some '.' && ds.head?.any Char.isDigit then
      (pointNumber? false 0 ds).map .ok
    else none
  | c :: _ =>
    if !c.isDigit then none
    else
      let whole := rest.takeWhile (· != '.')
      match rest.dropWhile (· != '.') with
      | '.' :: ds => match colonParts whole with
        | [w] =>
          if w.all isDigitOrBar then
            (pointNumber? negative (natOfDigits (withoutUnderscores w)) ds).map .ok
          else none
        | w :: more =>
          if w.all isDigitOrBar && more.all isSixty && ds.all isDigitOrBar then
            let parts := (w :: more).map (natOfDigits <| withoutUnderscores ·)
            some (sixtiesNumber? negative parts (withoutUnderscores ds))
          else none
        | [] => none
      | _ => none
  | [] => none

def date? (year month day : Nat) : Option Date :=
  if 1 ≤ year && 1 ≤ month && month ≤ 12 && 1 ≤ day && day ≤ monthDays year month then
    some ⟨year, month, day⟩
  else none

def oneOrTwo : List Char → Option (Nat × List Char)
  | c :: d :: rest =>
    if !c.isDigit then none
    else if d.isDigit then some (natOfDigits [c, d], rest) else some (natOfDigits [c], d :: rest)
  | [c] => if c.isDigit then some (natOfDigits [c], []) else none
  | [] => none

def two : List Char → Option (Nat × List Char)
  | c :: d :: rest => if c.isDigit && d.isDigit then some (natOfDigits [c, d], rest) else none
  | _ => none

def after (c : Char) : List Char → Option (List Char)
  | d :: rest => if c == d then some rest else none
  | [] => none

/-- A distance from universal time, in minutes; no text is none. -/
def zone? (cs : List Char) : Option (Option Int) :=
  match cs.dropWhile fun c => c == ' ' || c == '\t' with
  | [] => if cs.isEmpty then some none else none
  | ['Z'] => some (some 0)
  | s :: rest => do
    if s != '+' && s != '-' then none
    let (hours, rest) ← oneOrTwo rest
    let minutes ← match rest with
      | [] => some 0
      | rest => do
        let (m, rest) ← two (← after ':' rest)
        if rest.isEmpty then some m else none
    let n : Int := hours * 60 + minutes
    return some (if s == '-' then -n else n)

/-- A day and a time, if they are written so. -/
def momentReading (cs : List Char) : Reading := do
  let year := cs.take 4
  if year.length != 4 || !year.all Char.isDigit then none
  let (month, rest) ← oneOrTwo (← after '-' (cs.drop 4))
  let (day, rest) ← oneOrTwo (← after '-' rest)
  let blank (c : Char) : Bool := c == ' ' || c == '\t'
  let rest ← match rest with
    | 'T' :: rest | 't' :: rest => some rest
    | c :: rest => if blank c then some (rest.dropWhile blank) else none
    | [] => none
  let (hour, rest) ← oneOrTwo rest
  let (minute, rest) ← two (← after ':' rest)
  let (second, rest) ← two (← after ':' rest)
  let (fraction, rest) := match rest with
    | '.' :: rest => spanDigits rest
    | rest => ([], rest)
  let offset ← zone? rest
  return existing do
    let date ← date? (natOfDigits year) month day
    if 24 ≤ hour || 60 ≤ minute || 60 ≤ second || offset.any (fun o => 1440 ≤ o.natAbs) then none
    return .moment ⟨date, hour, minute, second,
      natOfDigits ((fraction.take 6).rightpad 6 '0'), offset⟩

def dateReading (cs : List Char) : Reading :=
  match cs with
  | [a, b, c, d, '-', e, f, '-', g, h] =>
    if [a, b, c, d, e, f, g, h].all Char.isDigit then
      some (existing ((date? (natOfDigits [a, b, c, d]) (natOfDigits [e, f])
        (natOfDigits [g, h])).map .date))
    else none
  | _ => none

/-- What a plain scalar stands for. The marks for merging and for a default value stand for
nothing that a document of plain data can hold. -/
def plainValue? (s : String) : Except LoadFault Value :=
  let cs := s.toList
  if nullWords.contains s then .ok .null
  else if trueWords.contains s then .ok (.bool true)
  else if falseWords.contains s then .ok (.bool false)
  else if s == "<<" || s == "=" then .error (.unread .malformed)
  else match floatReading cs with
    | some x => x.map .float
    | none =>
      ((intReading cs).or ((dateReading cs).or (momentReading cs))).getD (.ok (.text s))

end Yaml
end SearchCriteria
