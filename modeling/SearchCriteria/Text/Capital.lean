/-! Capital letters, as far as a name in basic Latin letters can be written with them. -/
namespace SearchCriteria

/-- The capital form of a letter. Outside basic Latin only the letters and ligatures whose
capital form is written in basic Latin letters change: no other can be part of a name. -/
def capitals (c : Char) : List Char :=
  match c with
  | 'ß' => ['S', 'S']
  | 'ı' => ['I']
  | 'ſ' => ['S']
  | 'ﬀ' => ['F', 'F']
  | 'ﬁ' => ['F', 'I']
  | 'ﬂ' => ['F', 'L']
  | 'ﬃ' => ['F', 'F', 'I']
  | 'ﬄ' => ['F', 'F', 'L']
  | 'ﬅ' => ['S', 'T']
  | 'ﬆ' => ['S', 'T']
  | c => [c.toUpper]

/-- A name in capital letters. -/
def capitalized (s : String) : String := String.ofList (s.toList.flatMap capitals)

end SearchCriteria
