/-! Bytes as text. -/
namespace SearchCriteria

def decodeUtf8? (bs : List UInt8) : Option String :=
  String.fromUTF8? ⟨bs.toArray⟩

/-- A line break is one character, however the text marks it. -/
def unifyLineBreaks : List Char → List Char
  | '\r' :: '\n' :: cs => '\n' :: unifyLineBreaks cs
  | '\r' :: cs => '\n' :: unifyLineBreaks cs
  | c :: cs => c :: unifyLineBreaks cs
  | [] => []

end SearchCriteria
