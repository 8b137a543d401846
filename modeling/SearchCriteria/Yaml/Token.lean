import SearchCriteria.Yaml.Quoted

/-! Tokens of YAML texts. Blocks have no brackets in the text: where a line is indented
deeper than the one before a block starts, and where it is not it ends. A key is known by
the colon after it, so its token is put in when the colon is met. -/
namespace SearchCriteria
namespace Yaml

inductive Token where
  | documentStart
  | documentEnd
  | sequenceStart
  | mappingStart
  | blockEnd
  | flowSequenceStart
  | flowSequenceEnd
  | flowMappingStart
  | flowMappingEnd
  | entry
  | flowEntry
  | key
  | value
  | scalar (plain : Bool) (text : String)
deriving DecidableEq, Repr

/-- A place where a key may have started: the number of tokens before it, and its line and
column. In a block, a token in the column of the block has to be a key. -/
structure KeyCandidate where
  tokens : Nat
  required : Bool
  line : Nat
  column : Nat
  left : Nat
deriving Repr

/-- How far a text has been read. Candidates are kept for each depth of brackets. -/
structure Lexer where
  cursor : Cursor
  tokens : Array Token
  indent : Int
  outer : List Int
  depth : Nat
  keyAllowed : Bool
  candidates : List (Nat × KeyCandidate)
deriving Repr

namespace Lexer

def start (cs : List Char) : Lexer := ⟨.ofText cs, #[], -1, [], 0, true, []⟩

def emit (l : Lexer) (t : Token) : Lexer := { l with tokens := l.tokens.push t }

def moved (l : Lexer) (c : Cursor) : Lexer := { l with cursor := c }

def take (l : Lexer) (n : Nat) (t : Token) : Lexer := (l.emit t).moved (l.cursor.advance n)

/-- Blanks, comments and line breaks. After a line break a key may start. -/
def skipBlanks : Nat → Lexer → Lexer
  | 0, l => l
  | fuel + 1, l =>
    let c := l.cursor.skipWhile (· == ' ')
    let c := if c.rest.head? == some '#' then c.skipWhile (!isBreak ·) else c
    match c.rest with
    | d :: _ =>
      if isBreak d then
        skipBlanks fuel { l with cursor := c.next, keyAllowed := l.keyAllowed || l.depth == 0 }
      else l.moved c
    | [] => l.moved c

/-- A key stands on one line and is not long. A candidate that is not there any more must
not have been required. -/
def dropStale? (l : Lexer) : Option Lexer :=
  let stale (k : KeyCandidate) : Bool :=
    k.line != l.cursor.line || 1024 < k.left - l.cursor.rest.length
  if l.candidates.any fun k => stale k.2 && k.2.required then none
  else some { l with candidates := l.candidates.filter fun k => !stale k.2 }

/-- Forget the candidate at this depth, unless it was required. -/
def dropCandidate? (l : Lexer) : Option Lexer :=
  match l.candidates.lookup l.depth with
  | some k =>
    if k.required then none
    else some { l with candidates := l.candidates.filter (·.1 != l.depth) }
  | none => some l

/-- A key may start here. -/
def noteCandidate? (l : Lexer) : Option Lexer :=
  if !l.keyAllowed then some l
  else do
    let l ← l.dropCandidate?
    let k : KeyCandidate :=
      ⟨l.tokens.size, l.depth == 0 && l.indent == l.cursor.column, l.cursor.line,
        l.cursor.column, l.cursor.rest.length⟩
    return { l with candidates := (l.depth, k) :: l.candidates }

/-- End the blocks that are indented deeper than a column. -/
def unwind (l : Lexer) (column : Int) : Lexer :=
  if l.depth != 0 then l else go l l.outer
where
  go (l : Lexer) : List Int → Lexer
    | [] => l
    | i :: is =>
      if column < l.indent then go { l.emit .blockEnd with indent := i, outer := is } is else l

/-- Start a block at a column, unless it has been started. -/
def indentTo (l : Lexer) (column : Int) : Bool × Lexer :=
  if l.indent < column then (true, { l with indent := column, outer := l.indent :: l.outer })
  else (false, l)

/-- A token that starts a block when it stands deeper than the one before. -/
def blockToken? (l : Lexer) (start t : Token) : Option Lexer :=
  let fresh : Option Lexer :=
    if l.depth != 0 then some l
    else if !l.keyAllowed then none
    else
      let (isNew, l) := l.indentTo l.cursor.column
      some (if isNew then l.emit start else l)
  fresh.map (·.take 1 t)

def entry? (l : Lexer) : Option Lexer := do
  let l ← l.blockToken? .sequenceStart .entry
  { l with keyAllowed := true }.dropCandidate?

/-- A key that is announced by a mark of its own. -/
def explicitKey? (l : Lexer) : Option Lexer := do
  let l ← l.blockToken? .mappingStart .key
  { l with keyAllowed := l.depth == 0 }.dropCandidate?

/-- A colon. What is before it turns out to be a key, if there is a candidate. -/
def value? (l : Lexer) : Option Lexer :=
  match l.candidates.lookup l.depth with
  | some k =>
    let (isNew, l) := if l.depth == 0 then l.indentTo k.column else (false, l)
    let marks := if isNew then [.mappingStart, .key] else [.key]
    let tokens := l.tokens.toList.take k.tokens ++ marks ++ l.tokens.toList.drop k.tokens
    some ({ l with
      tokens := tokens.toArray
      keyAllowed := false
      candidates := l.candidates.filter (·.1 != l.depth) }.take 1 .value)
  | none => do
    let l ← l.blockToken? .mappingStart .value
    { l with keyAllowed := l.depth == 0 }.dropCandidate?

def marker? (l : Lexer) (t : Token) : Option Lexer := do
  let l ← (l.unwind (-1)).dropCandidate?
  return { l with keyAllowed := false }.take 3 t

def opening? (l : Lexer) (t : Token) : Option Lexer := do
  let l ← l.noteCandidate?
  return { l with depth := l.depth + 1, keyAllowed := true }.take 1 t

/-- A closing bracket needs an opening one. -/
def closing? (l : Lexer) (t : Token) : Option Lexer := do
  let l ← l.dropCandidate?
  if l.depth == 0 then none
  else some ({ l with depth := l.depth - 1, keyAllowed := false }.take 1 t)

def flowEntry? (l : Lexer) : Option Lexer := do
  let l ← { l with keyAllowed := true }.dropCandidate?
  return l.take 1 .flowEntry

def quotedScalar? (l : Lexer) (double : Bool) : Option Lexer := do
  let l ← l.noteCandidate?
  let (text, rest) ← quoted? double (l.cursor.rest.drop 1)
  return { l.emit (.scalar false (String.ofList text)) with
    keyAllowed := false, cursor := l.cursor.upTo rest }

def startsPlain (inFlow : Bool) : List Char → Bool
  | [] => false
  | c :: rest =>
    !(isSeparator c || "-?:,[]\x7b\x7d#&*!|>'\"%@\x60".toList.contains c)
      || (!atSeparator rest && (c == '-' || (!inFlow && (c == '?' || c == ':'))))

/-- The characters of a plain scalar up to a blank or to what ends it. -/
def plainWord (inFlow : Bool) : List Char → List Char
  | [] => []
  | c :: rest =>
    let brackets := ",[]\x7b\x7d".toList
    let ends := isSeparator c
      || (c == ':' && (atSeparator rest || (inFlow && (rest.head?.any brackets.contains))))
      || (inFlow && (c == '?' || brackets.contains c))
    if ends then [] else c :: plainWord inFlow rest

/-- The blank lines after a line break inside a plain scalar: the breaks, whether a mark
between documents follows one, and the place after them. -/
def plainBreaks : Nat → Cursor → List Char × Bool × Cursor
  | 0, c => ([], true, c)
  | fuel + 1, c =>
    if c.column == 0 && atMarker c.rest then ([], true, c)
    else
      let d := c.skipWhile (· == ' ')
      match d.rest with
      | b :: _ =>
        if isBreak b then
          let (bs, stop, e) := plainBreaks fuel d.next
          (normalBreak b :: bs, stop, e)
        else ([], false, d)
      | [] => ([], false, d)

/-- A plain scalar: its words with what is between them, and whether it went over a line. -/
def plainText (inFlow : Bool) (indent : Int) : Nat → Cursor → List Char × Bool × Cursor
  | 0, c => ([], false, c)
  | fuel + 1, c =>
    let word := if c.rest.head? == some '#' then [] else plainWord inFlow c.rest
    if word.isEmpty then ([], false, c)
    else
      let c := c.advance word.length
      let d := c.skipWhile (· == ' ')
      let again (between : List Char) (e : Cursor) (crossed : Bool) : List Char × Bool × Cursor :=
        if between.isEmpty || e.rest.head? == some '#'
            || (!inFlow && (e.column : Int) < indent) then (word, crossed, e)
        else
          let (more, crossedMore, f) := plainText inFlow indent fuel e
          if more.isEmpty then (word, crossed, f)
          else (word ++ between ++ more, crossedMore, f)
      match d.rest with
      | b :: _ =>
        if isBreak b then
          let (bs, stop, e) := plainBreaks fuel d.next
          if stop then (word, true, e) else again (foldBreaks b bs) e true
        else again (c.rest.takeWhile (· == ' ')) d false
      | [] => again (c.rest.takeWhile (· == ' ')) d false

def plainScalar? (l : Lexer) : Option Lexer := do
  let l ← l.noteCandidate?
  let (text, crossed, c) :=
    plainText (l.depth != 0) (l.indent + 1) (l.cursor.rest.length + 1) l.cursor
  return { l.emit (.scalar true (String.ofList text)) with keyAllowed := crossed, cursor := c }

/-- The next token. Anchors, tags, directives and block scalars are not read. -/
def token? (l : Lexer) : Option Lexer :=
  let cs := l.cursor.rest
  let atLineStart := l.cursor.column == 0
  match cs with
  | [] => some l
  | c :: rest =>
    if atLineStart && atMarker cs then
      l.marker? (if c == '-' then .documentStart else .documentEnd)
    else if c == '[' then l.opening? .flowSequenceStart
    else if c == '\x7b' then l.opening? .flowMappingStart
    else if c == ']' then l.closing? .flowSequenceEnd
    else if c == '\x7d' then l.closing? .flowMappingEnd
    else if c == ',' then l.flowEntry?
    else if c == '-' && atSeparator rest then l.entry?
    else if c == '?' && (l.depth != 0 || atSeparator rest) then l.explicitKey?
    else if c == ':' && (l.depth != 0 || atSeparator rest) then l.value?
    else if c == '\'' then l.quotedScalar? false
    else if c == '"' then l.quotedScalar? true
    else if startsPlain (l.depth != 0) cs then l.plainScalar?
    else none

def run? : Nat → Lexer → Option (Array Token)
  | 0, _ => none
  | fuel + 1, l => do
    let l ← (l.skipBlanks (l.cursor.rest.length + 1)).dropStale?
    let l := l.unwind l.cursor.column
    if l.cursor.rest.isEmpty then do
      let l ← (l.unwind (-1)).dropCandidate?
      return l.tokens
    else run? fuel (← l.token?)

end Lexer

def isAllowed (c : Char) : Bool :=
  let n := c.toNat
  n == 0x09 || n == 0x0a || n == 0x0d || (0x20 ≤ n && n ≤ 0x7e) || n == 0x85
    || (0xa0 ≤ n && n ≤ 0xd7ff) || (0xe000 ≤ n && n ≤ 0xfffd) || 0x10000 ≤ n

/-- The tokens of a text. A byte order mark at its start is no part of it. -/
def tokens? (cs : List Char) : Option (List Token) :=
  if !cs.all isAllowed then none
  else
    let cs := match cs with
      | '\ufeff' :: rest => rest
      | cs => cs
    (Lexer.run? (cs.length + 1) (.start cs)).map Array.toList

end Yaml
end SearchCriteria
