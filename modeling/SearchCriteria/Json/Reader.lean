import SearchCriteria.Decimal.Reader
import SearchCriteria.Value.Equality

/-! Reading JSON texts. Besides the standard's forms, the names of the numbers that JSON
has no form for are read; a number is an integer unless it has a point or an exponent, and
of entries with the same name the last one counts. -/
namespace SearchCriteria
namespace Json

def isSpace (c : Char) : Bool := c == ' ' || c == '\t' || c == '\n' || c == '\r'

def skipSpace (cs : List Char) : List Char := cs.dropWhile isSpace

def hexValue? (c : Char) : Option Nat :=
  if '0' ≤ c && c ≤ '9' then some (c.toNat - '0'.toNat)
  else if 'a' ≤ c && c ≤ 'f' then some (c.toNat - 'a'.toNat + 10)
  else if 'A' ≤ c && c ≤ 'F' then some (c.toNat - 'A'.toNat + 10)
  else none

def unit? (a b c d : Char) : Option Nat := do
  return (((← hexValue? a) * 16 + (← hexValue? b)) * 16 + (← hexValue? c)) * 16 + (← hexValue? d)

/-- The character that a letter after a backslash stands for. -/
def escape? : Char → Option Char
  | '"' => some '"'
  | '\\' => some '\\'
  | '/' => some '/'
  | 'b' => some '\x08'
  | 'f' => some '\x0c'
  | 'n' => some '\n'
  | 'r' => some '\r'
  | 't' => some '\t'
  | _ => none

/-- What stands for half of a pair of units. -/
def replacement : Char := '\ufffd'

/-- The character of a unit that is no half of a pair. -/
def ofUnit (n : Nat) : Char := if 0xd800 ≤ n && n < 0xe000 then replacement else Char.ofNat n

/-- The characters of code points; two units next to each other make up one. -/
def joinUnits : List Nat → List Char
  | [] => []
  | [n] => [ofUnit n]
  | n :: m :: ns =>
    if 0xd800 ≤ n && n < 0xdc00 && 0xdc00 ≤ m && m < 0xe000 then
      Char.ofNat (0x10000 + (n - 0xd800) * 0x400 + (m - 0xdc00)) :: joinUnits ns
    else ofUnit n :: joinUnits (m :: ns)

/-- The code points up to the closing quotation mark, and what follows it. -/
def stringBody? : List Char → Option (List Nat × List Char)
  | [] => none
  | '"' :: cs => some ([], cs)
  | '\\' :: 'u' :: a :: b :: c :: d :: cs => do
    let n ← unit? a b c d
    let (s, rest) ← stringBody? cs
    return (n :: s, rest)
  | '\\' :: c :: cs => do
    let e ← escape? c
    let (s, rest) ← stringBody? cs
    return (e.toNat :: s, rest)
  | c :: cs =>
    if c.toNat < 0x20 || c == '\\' then none
    else do
      let (s, rest) ← stringBody? cs
      return (c.toNat :: s, rest)

/-- The text after an opening quotation mark, and what follows it. -/
def string? (cs : List Char) : Option (String × List Char) :=
  (stringBody? cs).map fun (s, rest) => (String.ofList (joinUnits s), rest)

/-- The fraction of a number: a point with digits after it. -/
def spanFraction (cs : List Char) : List Char × List Char :=
  match cs with
  | '.' :: rest =>
    let (digits, rest) := spanDigits rest
    if digits.isEmpty then ([], cs) else (digits, rest)
  | _ => ([], cs)

/-- The exponent of a number: its letter, a sign or none, and digits. -/
def spanExponent (cs : List Char) : Option Int × List Char :=
  match cs with
  | c :: rest =>
    if c == 'e' || c == 'E' then
      let (negative, rest) := spanSign rest
      let (digits, rest) := spanDigits rest
      if digits.isEmpty then (none, cs)
      else (some (if negative then -(natOfDigits digits : Int) else natOfDigits digits), rest)
    else (none, cs)
  | [] => (none, cs)

/-- A number without its sign. Its whole part has no leading zeros. -/
def number? (negative : Bool) (cs : List Char) : Option (Value × List Char) :=
  let (whole, rest) := match cs with
    | '0' :: rest => (['0'], rest)
    | cs => spanDigits cs
  if whole.isEmpty then none
  else
    let (fraction, rest) := spanFraction rest
    let (exponent, rest) := spanExponent rest
    if fraction.isEmpty && exponent.isNone then
      if maxDigits < whole.length then none
      else
        let n : Int := natOfDigits whole
        some (.int (if negative then -n else n), rest)
    else
      some (.float (.ofDecimal negative (natOfDigits (whole ++ fraction))
        (exponent.getD 0 - fraction.length)), rest)

def words : List (List Char × Value) :=
  [("null".toList, .null), ("true".toList, .bool true), ("false".toList, .bool false),
    ("NaN".toList, .float .plainNaN), ("Infinity".toList, .float (.infinite false)),
    ("-Infinity".toList, .float (.infinite true))]

def scalar? (cs : List Char) : Option (Value × List Char) :=
  match words.find? fun w => w.1.isPrefixOf cs with
  | some (w, v) => some (v, cs.drop w.length)
  | none => match cs with
    | '-' :: rest => number? true rest
    | cs => number? false cs

mutual

/-- A value at the start of a text, and what follows it. -/
def value? : Nat → List Char → Option (Value × List Char)
  | 0, _ => none
  | fuel + 1, cs => match cs with
    | '"' :: rest => (string? rest).map fun (s, rest) => (.text s, rest)
    | '[' :: rest => match skipSpace rest with
      | ']' :: rest => some (.list [], rest)
      | rest => (items? fuel rest).map fun (xs, rest) => (.list xs, rest)
    | '\x7b' :: rest => match skipSpace rest with
      | '\x7d' :: rest => some (.map [], rest)
      | rest => (members? fuel rest).map fun (es, rest) => (.map (Entries.ofList es), rest)
    | cs => scalar? cs

def items? : Nat → List Char → Option (List Value × List Char)
  | 0, _ => none
  | fuel + 1, cs => do
    let (x, rest) ← value? fuel cs
    match skipSpace rest with
    | ']' :: rest => return ([x], rest)
    | ',' :: rest =>
      let (xs, rest) ← items? fuel (skipSpace rest)
      return (x :: xs, rest)
    | _ => none

def members? : Nat → List Char → Option (Entries × List Char)
  | 0, _ => none
  | fuel + 1, cs => match cs with
    | '"' :: rest => do
      let (name, rest) ← string? rest
      match skipSpace rest with
      | ':' :: rest =>
        let (v, rest) ← value? fuel (skipSpace rest)
        let entry := (Value.text name, v)
        match skipSpace rest with
        | '\x7d' :: rest => return ([entry], rest)
        | ',' :: rest =>
          let (es, rest) ← members? fuel (skipSpace rest)
          return (entry :: es, rest)
        | _ => none
      | _ => none
    | _ => none

end

/-- The value that a text is. Each step of the reading takes a character at least, so the
length of the text bounds their number. -/
def read? (cs : List Char) : Option Value := do
  let (v, rest) ← value? (cs.length + 1) (skipSpace cs)
  if (skipSpace rest).isEmpty then some v else none

end Json
end SearchCriteria
