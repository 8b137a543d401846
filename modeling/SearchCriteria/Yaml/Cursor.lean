/-! A place in a text, with the line and the column in which it stands: in a YAML text the
indentation of a line carries meaning. -/
namespace SearchCriteria
namespace Yaml

/-- What is left of a text, and where it starts. -/
structure Cursor where
  rest : List Char
  line : Nat
  column : Nat
deriving Repr, Inhabited

def isBreak (c : Char) : Bool :=
  c == '\n' || c == '\x85' || c == '\u2028' || c == '\u2029'

def isSeparator (c : Char) : Bool := c == ' ' || c == '\t' || isBreak c

/-- Whether the text ends or a token is separated here. -/
def atSeparator : List Char → Bool
  | [] => true
  | c :: _ => isSeparator c

/-- Whether a line that starts here is a mark between documents. -/
def atMarker : List Char → Bool
  | '-' :: '-' :: '-' :: cs => atSeparator cs
  | '.' :: '.' :: '.' :: cs => atSeparator cs
  | _ => false

namespace Cursor

def ofText (cs : List Char) : Cursor := ⟨cs, 0, 0⟩

def next (c : Cursor) : Cursor :=
  match c.rest with
  | [] => c
  | d :: rest =>
    if isBreak d then ⟨rest, c.line + 1, 0⟩
    else ⟨rest, c.line, if d == '\ufeff' then c.column else c.column + 1⟩

def advance (c : Cursor) : Nat → Cursor
  | 0 => c
  | n + 1 => advance c.next n

/-- The place where so much of the text is left. -/
def upTo (c : Cursor) (rest : List Char) : Cursor := c.advance (c.rest.length - rest.length)

def skipWhile (c : Cursor) (p : Char → Bool) : Cursor := c.upTo (c.rest.dropWhile p)

end Cursor

/-- The text that a line break between words leaves: a space, unless more breaks follow. -/
def foldBreaks (first : Char) (more : List Char) : List Char :=
  (if first != '\n' && first != '\x85' then [first] else if more.isEmpty then [' '] else []) ++ more

/-- A line break in its normal form. -/
def normalBreak (c : Char) : Char := if c == '\x85' then '\n' else c

end Yaml
end SearchCriteria
