import SearchCriteria.Value.Written

/-! Writing values as JSON in basic Latin characters, on one line or indented. Numbers
that JSON has no form for are written by their names. -/
namespace SearchCriteria
namespace Json

/-- How values are written. -/
structure Style where
  /-- Each item stands on a line of its own when there is an indentation, also when it is
  no wider than nothing. -/
  indent : Option Int
  /-- Whether a value of a kind that JSON lacks is written as its text. -/
  asText : Bool
deriving Repr

/-- Numbers are written as everywhere else, apart from the names. -/
def numbers : DecimalLayout := { plainNumbers with nan := "NaN", infinity := "Infinity" }

def unitEscape (n : Nat) : List Char := '\\' :: 'u' :: hexDigits 4 n

/-- A character inside a JSON string. Past the first plane it takes two units. -/
def stringChar (c : Char) : List Char :=
  let n := c.toNat
  if c == '"' || c == '\\' then ['\\', c]
  else if c == '\n' then ['\\', 'n']
  else if c == '\r' then ['\\', 'r']
  else if c == '\t' then ['\\', 't']
  else if c == '\x08' then ['\\', 'b']
  else if c == '\x0c' then ['\\', 'f']
  else if 0x20 ≤ n && n < 0x7f then [c]
  else if n < 0x10000 then unitEscape n
  else
    let m := n - 0x10000
    unitEscape (0xd800 + m / 0x400) ++ unitEscape (0xdc00 + m % 0x400)

def string (s : String) : String :=
  String.ofList ('"' :: s.toList.flatMap stringChar ++ ['"'])

namespace Style

/-- The break before an item at a depth of nesting. -/
def lineBreak (st : Style) (depth : Nat) : String :=
  match st.indent with
  | none => ""
  | some n => "\n" ++ String.ofList (List.replicate (n.toNat * depth) ' ')

/-- What stands between two items at a depth of nesting. -/
def separator (st : Style) (depth : Nat) : String :=
  match st.indent with
  | none => ", "
  | some _ => "," ++ st.lineBreak depth

/-- Items in brackets; brackets without items stay closed. -/
def bracket (st : Style) (depth : Nat) (left right : String) (items : List String) : String :=
  if items.isEmpty then left ++ right
  else left ++ st.lineBreak (depth + 1) ++ String.intercalate (st.separator (depth + 1)) items
    ++ st.lineBreak depth ++ right

def key? (st : Style) : Value → Except Failure String
  | .text s => .ok s
  | .null => .ok "null"
  | .bool b => .ok (if b then "true" else "false")
  | .int n => writtenInt? n
  | .float x => .ok (numbers.text x)
  | v => .error (.kind (.badKey (if st.indent.isSome then v.shortKind else v.kind)))

def foreign? (st : Style) (v : Value) : Except Failure String :=
  if st.asText then v.written?.map string
  else .error (.kind (.notSerializable v.shortKind))

mutual

/-- The JSON text of a value that stands at a depth of nesting. -/
def write? (st : Style) (depth : Nat) : Value → Except Failure String
  | .null => .ok "null"
  | .bool b => .ok (if b then "true" else "false")
  | .int n => writtenInt? n
  | .float x => .ok (numbers.text x)
  | .text s => .ok (string s)
  | .list xs | .tuple xs => (writeItems? st (depth + 1) xs).map (st.bracket depth "[" "]")
  | .map es => (writeEntries? st (depth + 1) es).map (st.bracket depth "\x7b" "\x7d")
  | .complex x y => st.foreign? (.complex x y)
  | .set xs => st.foreign? (.set xs)
  | .bytes bs => st.foreign? (.bytes bs)
  | .date d => st.foreign? (.date d)
  | .moment m => st.foreign? (.moment m)
  | .stream xs => st.foreign? (.stream xs)
  | .object o => st.foreign? (.object o)

def writeItems? (st : Style) (depth : Nat) : List Value → Except Failure (List String)
  | [] => .ok []
  | x :: xs => do
    let t ← write? st depth x
    let ts ← writeItems? st depth xs
    return t :: ts

def writeEntries? (st : Style) (depth : Nat) :
    List (Value × Value) → Except Failure (List String)
  | [] => .ok []
  | (k, v) :: es => do
    let name ← st.key? k
    let t ← write? st depth v
    let ts ← writeEntries? st depth es
    return (string name ++ ": " ++ t) :: ts

end

end Style

/-- The JSON text of a value. Sets, bytes, dates and what else JSON lacks become their texts. An
indentation has to be one that can be counted out. -/
def render? (indent : Option Int) (v : Value) : Except Failure String :=
  if indent.all Value.isIndex then Style.write? ⟨indent, true⟩ 0 v
  else .error .indexOverflow

/-- The JSON text, on one line, of a value that holds nothing JSON lacks. -/
def strict? (v : Value) : Except Failure String := Style.write? ⟨none, false⟩ 0 v

end Json
end SearchCriteria
