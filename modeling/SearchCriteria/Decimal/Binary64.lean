/-! Doubles as places on the ordered line of finite magnitudes. Every encoding is
canonical by construction, and reading an exact ratio rounds once, to the nearest
place, with an exact half going to the even one. -/
namespace SearchCriteria

/-- How many finite magnitudes there are; the next place would be infinity. -/
def Binary64.finiteCount : Nat := 0x7ff0000000000000

/-- A double. A finite one is a sign and the rank of its magnitude among the finite
magnitudes in increasing order, so rank `0` is zero and ranks compare as values do. What is
not a number has a payload, by which one is told from another. -/
inductive Binary64 where
  | nan (payload : Nat)
  | infinite (negative : Bool)
  | finite (negative : Bool) (rank : Fin Binary64.finiteCount)
deriving DecidableEq, Repr

namespace Binary64

/-- What is not a number, and has not been told from any other. -/
def plainNaN : Binary64 := nan 0

instance : Inhabited Binary64 := ⟨plainNaN⟩

/-- Ranks per binade, and the hidden bit of a normal significand. -/
def binade : Nat := 0x10000000000000

def leastExponent : Int := -1074

def significandOfRank (rank : Nat) : Nat :=
  if rank < binade then rank else rank % binade + binade

/-- The magnitude of a rank is its significand times two to this power. -/
def exponentOfRank (rank : Nat) : Int :=
  leastExponent + (rank / binade - 1 : Nat)

/-- The magnitude of a rank as a numerator and a denominator. -/
def ratioOfRank (rank : Nat) : Nat × Nat :=
  let exponent := exponentOfRank rank
  (significandOfRank rank * Nat.pow 2 exponent.toNat, Nat.pow 2 (-exponent).toNat)

/-- The quotient to the nearest integer, an exact half to the even neighbour. -/
def roundedQuotient (num den : Nat) : Nat :=
  let floor := num / den
  let twice := 2 * (num % den)
  if twice < den then floor
  else if den < twice then floor + 1
  else floor + floor % 2

/-- The rank nearest to a positive ratio. A significand that rounds up to the next
binade lands on that binade's first rank, so no second normalisation is needed. -/
def rankOfRatio (num den : Nat) : Nat :=
  let guess : Int := (num.log2 : Int) - (den.log2 : Int) - 52
  let scaled (e : Int) : Nat × Nat := (num * Nat.pow 2 (-e).toNat, den * Nat.pow 2 e.toNat)
  let (n, d) := scaled guess
  let exponent := max leastExponent (if n < binade * d then guess - 1 else guess)
  let (n, d) := scaled exponent
  (exponent - leastExponent).toNat * binade + roundedQuotient n d

/-- Past the last finite rank the magnitude is infinite. -/
def ofRank (negative : Bool) (rank : Nat) : Binary64 :=
  if h : rank < finiteCount then finite negative ⟨rank, h⟩ else infinite negative

def zero (negative : Bool) : Binary64 := finite negative ⟨0, by decide⟩

/-- The double nearest to `± num / den`. -/
def ofRatio (negative : Bool) (num den : Nat) : Binary64 :=
  if num = 0 then zero negative else ofRank negative (rankOfRatio num den)

/-- The double nearest to `± digits × 10 ^ exponent`. Magnitudes that are out of range by
their size alone are answered without computing the power. -/
def ofDecimal (negative : Bool) (digits : Nat) (exponent : Int) : Binary64 :=
  let size : Int := exponent + (Nat.toDigits 10 digits).length
  if digits = 0 || size < -400 then zero negative
  else if 400 < size then infinite negative
  else ofRatio negative (digits * Nat.pow 10 exponent.toNat) (Nat.pow 10 (-exponent).toNat)

/-- The double nearest to an integer, if one is finite. -/
def ofInt? (n : Int) : Option Binary64 :=
  match ofRatio (n < 0) n.natAbs 1 with
  | finite s r => some (finite s r)
  | _ => none

def ofBool (b : Bool) : Binary64 := ofRatio false b.toNat 1

def isNaN : Binary64 → Bool
  | nan _ => true
  | _ => false

/-- Both zeros are zero. -/
def isZero : Binary64 → Bool
  | finite _ r => r.val == 0
  | _ => false

/-- Strictly below zero: negative zero and NaN are not. -/
def isNegative : Binary64 → Bool
  | nan _ => false
  | infinite s => s
  | finite s r => s && r.val != 0

/-- Numeric equality: zeros are equal, and NaN equals nothing. -/
def equal : Binary64 → Binary64 → Bool
  | infinite s, infinite t => s == t
  | finite s r, finite t q => r == q && (s == t || r.val == 0)
  | _, _ => false

/-- Whether two doubles are the same one or equal: what is not a number is the same as what
has its payload. -/
def alike : Binary64 → Binary64 → Bool
  | nan p, nan q => p == q
  | x, y => x.equal y

/-- Exact comparison with an integer, without rounding it. -/
def equalInt (x : Binary64) (n : Int) : Bool :=
  match x with
  | finite s r =>
    let (num, den) := ratioOfRank r.val
    (if s then -(num : Int) else num) == n * den
  | _ => false

/-- Whether the value is an integer of a magnitude below a bound. -/
def isIntegralBelow (bound : Nat) : Binary64 → Bool
  | finite _ r =>
    let (num, den) := ratioOfRank r.val
    num % den == 0 && num < bound * den
  | _ => false

end Binary64
end SearchCriteria
