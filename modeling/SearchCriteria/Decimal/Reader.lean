import SearchCriteria.Decimal.Binary64

/-! Reading a number from its text: a sign, digits around a point, and an exponent. -/
namespace SearchCriteria

def natOfDigits (cs : List Char) : Nat :=
  cs.foldl (fun n c => 10 * n + (c.toNat - '0'.toNat)) 0

/-- An integer may have so many digits. -/
def maxDigits : Nat := 4300

def spanDigits (cs : List Char) : List Char × List Char :=
  (cs.takeWhile Char.isDigit, cs.dropWhile Char.isDigit)

/-- A sign, if there is one: whether it is negative, and what follows it. -/
def spanSign : List Char → Bool × List Char
  | '-' :: cs => (true, cs)
  | '+' :: cs => (false, cs)
  | cs => (false, cs)

/-- An exponent part that ends the text; no text is exponent zero. -/
def readExponent? : List Char → Option Int
  | [] => some 0
  | c :: cs =>
    if c == 'e' || c == 'E' then
      let (negative, rest) := spanSign cs
      let (digits, rest) := spanDigits rest
      if digits.isEmpty || !rest.isEmpty then none
      else if negative then some (-(natOfDigits digits : Int))
      else some (natOfDigits digits)
    else none

/-- Digits, a point among them or not, and an exponent or none. -/
def readUnsigned? (negative : Bool) (cs : List Char) : Option Binary64 :=
  let (whole, rest) := spanDigits cs
  let (fraction, rest) := match rest with
    | '.' :: rest => spanDigits rest
    | rest => ([], rest)
  if whole.isEmpty && fraction.isEmpty then none
  else (readExponent? rest).map fun e =>
    Binary64.ofDecimal negative (natOfDigits (whole ++ fraction)) (e - fraction.length)

/-- A number in any case of letters; infinity and NaN go by their names. -/
def Binary64.read? (cs : List Char) : Option Binary64 :=
  let (negative, rest) := spanSign cs
  match String.ofList (rest.map Char.toLower) with
  | "inf" | "infinity" => some (.infinite negative)
  | "nan" => some .plainNaN
  | _ => readUnsigned? negative rest

end SearchCriteria
