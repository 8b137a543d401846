import SearchCriteria.Decimal.Binary64

/-! The shortest decimal that reads back as a double, and how its digits are laid out.
For one digit, two digits, and so on, the two neighbours of the value on that decimal
grid are tried in exact arithmetic: the first grid that has a neighbour inside the
rounding interval wins, and of two such neighbours the nearer. -/
namespace SearchCriteria

/-- A positive decimal `digits × 10 ^ exponent`. -/
structure Decimal where
  digits : Nat
  exponent : Int
deriving DecidableEq, Repr

/-- How the digits of a number are written. -/
structure DecimalLayout where
  /-- Scientific exponents from here on are written positionally, -/
  positionalFrom : Int
  /-- and those from here on are not. -/
  positionalUntil : Int
  nan : String
  infinity : String

namespace Binary64

/-- The magnitudes that round to one rank, in quarter steps of its significand. -/
structure Interval where
  low : Nat
  value : Nat
  high : Nat
  closed : Bool

/-- Below a power of two the step is half as wide, except among the smallest magnitudes. -/
def intervalOfRank (rank : Nat) : Interval :=
  let m := significandOfRank rank
  let below := if m == binade && binade < rank then 1 else 2
  { low := 4 * m - below, value := 4 * m, high := 4 * m + 2, closed := m % 2 == 0 }

/-- The power of ten of the leading digit of a positive ratio. -/
def leadingPower (num den : Nat) : Int :=
  if den ≤ num then (Nat.toDigits 10 (num / den)).length - 1
  else -((Nat.toDigits 10 ((den - 1) / num)).length : Int)

/-- The decimal of the grid `10 ^ power` that stands for a rank, if one lies inside the
rank's interval. -/
def onGrid (rank : Nat) (power : Int) : Option Decimal :=
  let i := intervalOfRank rank
  let e := exponentOfRank rank - 2
  let up := Nat.pow 2 e.toNat * Nat.pow 10 (-power).toNat
  let unit := Nat.pow 2 (-e).toNat * Nat.pow 10 power.toNat
  let inside (d : Nat) : Bool :=
    if i.closed then i.low * up ≤ d * unit && d * unit ≤ i.high * up
    else i.low * up < d * unit && d * unit < i.high * up
  let below := i.value * up / unit
  let rest := i.value * up - below * unit
  let nearer := if 2 * rest < unit || (2 * rest == unit && below % 2 == 0) then below else below + 1
  if inside below && inside (below + 1) then some ⟨nearer, power⟩
  else if inside below then some ⟨below, power⟩
  else if inside (below + 1) then some ⟨below + 1, power⟩
  else none

/-- The decimal with the fewest digits that reads back as the rank. Seventeen digits
always suffice. -/
def shortest (rank : Nat) : Decimal :=
  let (num, den) := ratioOfRank rank
  let lead := leadingPower num den
  ((List.range 17).findSome? fun (n : Nat) => onGrid rank (lead - n)).getD ⟨0, 0⟩

end Binary64

namespace Decimal

/-- The digits without trailing zeros, and the power of ten of the first one. -/
def normal (d : Decimal) : List Char × Int :=
  let all := Nat.toDigits 10 d.digits
  let kept := (all.reverse.dropWhile (· == '0')).reverse
  (kept, d.exponent + all.length - 1)

end Decimal

namespace DecimalLayout

/-- An exponent has a sign and at least two digits. -/
def exponentText (e : Int) : List Char :=
  let digits := Nat.toDigits 10 e.natAbs
  (if e < 0 then '-' else '+') :: List.leftpad 2 '0' digits

def scientific (digits : List Char) (lead : Int) : List Char :=
  let fraction := digits.drop 1
  digits.take 1 ++ (if fraction.isEmpty then [] else '.' :: fraction) ++ 'e' :: exponentText lead

/-- Positional notation keeps a digit on each side of the point. -/
def positional (digits : List Char) (lead : Int) : List Char :=
  if lead < 0 then
    '0' :: '.' :: List.replicate (-lead - 1).toNat '0' ++ digits
  else
    let whole := lead.toNat + 1
    let fraction := digits.drop whole
    (digits.take whole).rightpad whole '0' ++ '.' :: (if fraction.isEmpty then ['0'] else fraction)

def text (l : DecimalLayout) : Binary64 → String
  | .nan _ => l.nan
  | .infinite negative => (if negative then "-" else "") ++ l.infinity
  | .finite negative rank =>
    let (digits, lead) := if rank.val == 0 then (['0'], 0) else (Binary64.shortest rank.val).normal
    let body :=
      if l.positionalFrom ≤ lead && lead < l.positionalUntil then positional digits lead
      else scientific digits lead
    String.ofList (if negative then '-' :: body else body)

end DecimalLayout
end SearchCriteria
