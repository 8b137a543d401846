import SearchCriteria.Decimal.Binary64

/-! Sums and products of doubles: the exact result of each step is rounded once. -/
namespace SearchCriteria
namespace Binary64

def signedNumerator (negative : Bool) (num : Nat) : Int := if negative then -(num : Int) else num

/-- The double nearest to the exact sum. A sum that is nothing is positive, unless both parts
are negative. -/
def add : Binary64 → Binary64 → Binary64
  | nan p, _ | _, nan p => nan p
  | infinite s, infinite t => if s == t then infinite s else plainNaN
  | infinite s, _ | _, infinite s => infinite s
  | finite s r, finite t q =>
    let (a, b) := ratioOfRank r.val
    let (c, d) := ratioOfRank q.val
    let num := signedNumerator s a * d + signedNumerator t c * b
    if num = 0 then zero (s && t) else ofRatio (num < 0) num.natAbs (b * d)

/-- The double nearest to the exact product. -/
def mul (x y : Binary64) : Binary64 :=
  match x, y with
  | nan p, _ | _, nan p => nan p
  | infinite s, infinite t => infinite (s ^^ t)
  | infinite s, finite t q | finite t q, infinite s =>
    if q.val = 0 then plainNaN else infinite (s ^^ t)
  | finite s r, finite t q =>
    let (a, b) := ratioOfRank r.val
    let (c, d) := ratioOfRank q.val
    ofRatio (s ^^ t) (a * c) (b * d)

def negate : Binary64 → Binary64
  | nan p => nan p
  | infinite s => infinite !s
  | finite s r => finite (!s) r

end Binary64
end SearchCriteria
