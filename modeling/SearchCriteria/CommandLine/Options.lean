import SearchCriteria.Decimal.Integer

/-! The arguments of the command line. An option may be cut short as long as it can be told
from the others, and its value is the next argument or follows an equals sign. After two
dashes that stand alone, no argument is an option. -/
namespace SearchCriteria
namespace CommandLine

/-- The value of an option. Two dashes behind an equals sign are taken away like two dashes
that stand alone, and what is left is no value but a list of none. -/
inductive Given (α : Type) where
  | value (a : α)
  | emptied
deriving DecidableEq, Repr

/-- What a run is asked to do: which document to compile, and how. -/
structure Options where
  path : String
  config : Option (Given String)
  indent : Option (Given Int)
  logLevel : Option (Given String)
deriving DecidableEq, Repr

/-- Why arguments do not come to options. -/
inductive Usage where
  | help
  | misuse
deriving DecidableEq, Repr

def Usage.exitCode : Usage → Nat
  | help => 0
  | misuse => 2

inductive OptionName where
  | help
  | config
  | indent
  | logLevel
deriving DecidableEq, Repr

/-- An argument by itself. -/
inductive Word where
  | plain (text : String)
  | option (name : OptionName) (value : Option String)
  | unknown
  | divider
deriving DecidableEq, Repr

abbrev Spellings := List (String × OptionName)

/-- The options before the name of the command, without those of a single letter. -/
def generalSpellings : Spellings := [("--help", .help)]

/-- The options of the command, without those of a single letter. -/
def compileSpellings : Spellings :=
  generalSpellings ++ [("--config", .config), ("--indent", .indent), ("--log-level", .logLevel)]

namespace Word

/-- A name, and what follows an equals sign if there is one. -/
def splitValue (cs : List Char) : List Char × Option (List Char) :=
  match cs.dropWhile (· != '=') with
  | [] => (cs, none)
  | _ :: value => (cs.takeWhile (· != '='), some value)

/-- What follows a single dash and the letter of the call for help: nothing, or the same
letter again, also behind an equals sign. Help takes no other value. -/
def afterHelp (cs : List Char) : Word :=
  let letters := match cs with
    | '=' :: rest => rest
    | cs => cs
  .option .help (if cs.isEmpty || (!letters.isEmpty && letters.all (· == 'h')) then none
    else some (String.ofList letters))

/-- The options that an argument may mean when it is cut short. -/
def candidates (names : Spellings) (cs : List Char) : List Word :=
  let (name, value) := splitValue cs
  (names.filter fun n => name.isPrefixOf n.1.toList).map fun n =>
    .option n.2 (value.map String.ofList)

/-- Whether an argument is a number below zero: digits with a point among them or not. -/
def isNegativeNumber (cs : List Char) : Bool :=
  let cs := if cs.getLast? == some '\n' then cs.dropLast else cs
  let isDigit (c : Char) : Bool := (digitValue? c).isSome
  match cs with
  | '-' :: rest =>
    match rest.dropWhile isDigit with
    | [] => !rest.isEmpty
    | '.' :: fraction => !fraction.isEmpty && fraction.all isDigit
    | _ => false
  | _ => false

/-- An argument that no option is meant by: a number or words are taken as they are. -/
def other (s : String) : Word :=
  if isNegativeNumber s.toList || s.toList.contains ' ' then .plain s else .unknown

/-- An argument that may be an option. It is refused when it may mean several. -/
def ofArgument? (names : Spellings) (s : String) : Option Word :=
  match s.toList with
  | '-' :: 'h' :: rest => some (afterHelp rest)
  | '-' :: '-' :: _ =>
    match candidates names s.toList with
    | [] => some (other s)
    | [word] => some word
    | _ => none
  | ['-'] => some (.plain s)
  | '-' :: _ => some (other s)
  | _ => some (.plain s)

/-- All arguments up to the divider may be options. -/
def ofArguments? (names : Spellings) : List String → Option (List Word)
  | [] => some []
  | s :: rest =>
    if s == "--" then some (.divider :: rest.map .plain)
    else do
      let word ← ofArgument? names s
      let words ← ofArguments? names rest
      return word :: words

end Word

/-- Options as far as they have been read, and whether there was anything too much. -/
structure Draft where
  path : Option String
  config : Option (Given String)
  indent : Option (Given Int)
  logLevel : Option (Given String)
  surplus : Bool
deriving DecidableEq, Repr

namespace Draft

def empty : Draft := ⟨none, none, none, none, false⟩

def excess (d : Draft) : Draft := { d with surplus := true }

/-- There is one path. -/
def withPath (d : Draft) (s : String) : Draft :=
  if d.path.isNone then { d with path := some s } else d.excess

/-- A value as it is given, unless it is taken away. -/
def givenText (s : String) : Given String := if s == "--" then .emptied else .value s

/-- An integer as it is typed, unless it is taken away. -/
def givenInt? (s : String) : Option (Given Int) :=
  if s == "--" then some .emptied else (readInt? s.toList).map .value

/-- Of an option that is given twice the last value counts. -/
def withOption (d : Draft) (name : OptionName) (s : String) : Except Usage Draft :=
  match name with
  | .help => .error .misuse
  | .config => .ok { d with config := some (givenText s) }
  | .logLevel => .ok { d with logLevel := some (givenText s) }
  | .indent =>
    match givenInt? s with
    | some n => .ok { d with indent := some n }
    | none => .error .misuse

/-- The first argument that ends the reading decides, be it a call for help or a mistake. A
divider belongs to the path beside it. -/
def read (d : Draft) : List Word → Except Usage Draft
  | [] => .ok d
  | .option .help none :: _ => .error .help
  | .option name (some value) :: ws => do (← d.withOption name value).read ws
  | .option name none :: .plain value :: ws => do (← d.withOption name value).read ws
  | .option _ none :: _ => .error .misuse
  | .plain s :: .divider :: ws => (d.withPath s).read ws
  | .divider :: .plain s :: ws => (d.withPath s).read ws
  | .plain s :: ws => (d.withPath s).read ws
  | .divider :: ws => d.excess.read ws
  | .unknown :: ws => d.excess.read ws

/-- The options, if there is a path and nothing is too much. -/
def finish (d : Draft) : Except Usage Options :=
  match d.path, d.surplus with
  | some path, false => .ok ⟨path, d.config, d.indent, d.logLevel⟩
  | _, _ => .error .misuse

end Draft

namespace Options

def ofCommand (arguments : List String) : Except Usage Options :=
  match Word.ofArguments? compileSpellings arguments with
  | none => .error .misuse
  | some words => (Draft.empty.read words).bind Draft.finish

/-- The options of a whole argument list. Before the name of the command there is nothing
but a call for help; anything else there is too much. -/
def ofArguments : List String → Except Usage Options
  | [] => .error .misuse
  | s :: rest =>
    if s == "--" then .error .misuse
    else match Word.ofArgument? generalSpellings s with
      | some (.option _ none) => .error .help
      | some .unknown => (ofArguments rest).bind fun _ => .error .misuse
      | some (.plain "compile") => ofCommand rest
      | _ => .error .misuse

end Options
end CommandLine
end SearchCriteria
