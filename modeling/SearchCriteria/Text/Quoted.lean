import SearchCriteria.Text.Printable

/-! Quoted text, the form in which a value shows a string it holds: a quotation mark on
each side, and an escape for everything that would end the quotation or not show. -/
namespace SearchCriteria

def hexDigits (width n : Nat) : List Char := (Nat.toDigits 16 n).leftpad width '0'

/-- The double mark quotes what holds the single mark and not the double one. -/
def quotationMark (s : List Char) : Char :=
  if s.contains '\'' && !s.contains '"' then '"' else '\''

/-- The escapes common to texts and bytes. -/
def commonEscape? (mark c : Char) : Option (List Char) :=
  if c == mark || c == '\\' then some ['\\', c]
  else if c == '\n' then some ['\\', 'n']
  else if c == '\r' then some ['\\', 'r']
  else if c == '\t' then some ['\\', 't']
  else none

def quotedChar (mark c : Char) : List Char :=
  match commonEscape? mark c with
  | some e => e
  | none =>
    if isPrintable c then [c]
    else if c.toNat < 0x100 then '\\' :: 'x' :: hexDigits 2 c.toNat
    else if c.toNat < 0x10000 then '\\' :: 'u' :: hexDigits 4 c.toNat
    else '\\' :: 'U' :: hexDigits 8 c.toNat

def quotedText (s : String) : String :=
  let mark := quotationMark s.toList
  String.ofList (mark :: s.toList.flatMap (quotedChar mark) ++ [mark])

/-- One byte inside a quotation: only visible basic Latin stands for itself. -/
def quotedByte (mark : Char) (b : UInt8) : List Char :=
  let c := Char.ofNat b.toNat
  match commonEscape? mark c with
  | some e => e
  | none =>
    if 32 ≤ b.toNat && b.toNat < 127 then [c] else '\\' :: 'x' :: hexDigits 2 b.toNat

/-- Bytes in quotation marks, with the letter that tells them from a text. -/
def quotedBytes (bs : List UInt8) : String :=
  let mark := quotationMark (bs.map fun b => Char.ofNat b.toNat)
  String.ofList ('b' :: mark :: bs.flatMap (quotedByte mark) ++ [mark])

end SearchCriteria
