import SearchCriteria.Json.Reader
import SearchCriteria.Yaml.Cursor

/-! Quoted scalars of YAML texts. Lines are folded: a single line break inside a scalar
stands for a space. -/
namespace SearchCriteria
namespace Yaml

/-- The letters that stand for a character after a backslash. -/
def escapes : List (Char × Char) :=
  [('0', '\x00'), ('a', '\x07'), ('b', '\x08'), ('t', '\t'), ('\t', '\t'), ('n', '\n'),
    ('v', '\x0b'), ('f', '\x0c'), ('r', '\r'), ('e', '\x1b'), (' ', ' '), ('"', '"'),
    ('\\', '\\'), ('/', '/'), ('N', '\x85'), ('_', '\u00a0'), ('L', '\u2028'), ('P', '\u2029')]

/-- The letters that announce a code point in so many hexadecimal digits. -/
def escapeWidths : List (Char × Nat) := [('x', 2), ('u', 4), ('U', 8)]

def codePoint? (digits : List Char) : Option Char := do
  let ns ← digits.mapM Json.hexValue?
  let n := ns.foldl (fun a d => 16 * a + d) 0
  if n < 0x110000 then some (Json.ofUnit n) else none

/-- The line breaks from here to the next character of a scalar, without the blanks around
them. No mark between documents may stand among them. -/
def breaks? : Nat → List Char → Option (List Char × List Char)
  | 0, _ => none
  | fuel + 1, cs =>
    if atMarker cs then none
    else match cs.dropWhile fun c => c == ' ' || c == '\t' with
      | c :: rest =>
        if isBreak c then (breaks? fuel rest).map fun (bs, rest) => (normalBreak c :: bs, rest)
        else some ([], c :: rest)
      | [] => some ([], [])

/-- The characters after an opening quotation mark, and what follows the closing one. -/
def quotedBody? (double : Bool) : Nat → List Char → Option (List Char × List Char)
  | 0, _ => none
  | fuel + 1, cs =>
    let follow (found : List Char) (rest : List Char) : Option (List Char × List Char) :=
      (quotedBody? double fuel rest).map fun (more, rest) => (found ++ more, rest)
    match cs with
    | [] => none
    | '"' :: rest => if double then some ([], rest) else follow ['"'] rest
    | '\'' :: rest =>
      if double then follow ['\''] rest
      else match rest with
        | '\'' :: rest => follow ['\''] rest
        | rest => some ([], rest)
    | '\\' :: rest =>
      if !double then follow ['\\'] rest
      else match rest with
        | [] => none
        | c :: rest =>
          match escapes.lookup c, escapeWidths.lookup c with
          | some d, _ => follow [d] rest
          | none, some width =>
            if rest.length < width then none
            else (codePoint? (rest.take width)).bind fun d => follow [d] (rest.drop width)
          | none, none =>
            if isBreak c then (breaks? fuel rest).bind fun (bs, rest) => follow bs rest
            else none
    | c :: rest =>
      if c == ' ' || c == '\t' then
        let blanks := cs.takeWhile fun c => c == ' ' || c == '\t'
        match cs.dropWhile fun c => c == ' ' || c == '\t' with
        | [] => none
        | d :: rest => if isBreak d then follow [] (d :: rest) else follow blanks (d :: rest)
      else if isBreak c then
        (breaks? fuel rest).bind fun (bs, rest) => follow (foldBreaks c bs) rest
      else follow [c] rest

/-- The scalar after an opening quotation mark, and what follows it. -/
def quoted? (double : Bool) (cs : List Char) : Option (List Char × List Char) :=
  quotedBody? double (cs.length + 1) cs

end Yaml
end SearchCriteria
