import SearchCriteria.Decimal.Reader
import SearchCriteria.Text.Blank
import SearchCriteria.Text.Digit

/-! Reading an integer as it is typed: blanks around it do not count, a sign may come first,
and an underscore may stand between two digits. -/
namespace SearchCriteria

/-- The integer that a text spells in the digits of any script. -/
def readInt? (cs : List Char) : Option Int := do
  let (negative, rest) := spanSign (trimPadding cs)
  let groups := rest.splitOn '_'
  if groups.any List.isEmpty then none
  let digits ← groups.flatten.mapM digitValue?
  if maxDigits < digits.length then none
  let n : Nat := digits.foldl (fun n d => 10 * n + d) 0
  return if negative then -n else n

end SearchCriteria
