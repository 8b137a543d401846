import SearchCriteria.CommandLine.Document
import SearchCriteria.CommandLine.Options
import SearchCriteria.Compiler.Basic
import SearchCriteria.Criteria.Document
import SearchCriteria.Log.Logger
import SearchCriteria.Query.Render

/-! A run of the command line: it compiles the chain of a document and prints its rendering
as JSON. Its arguments, its environment, where it loads documents from and the logger that it
finds decide everything about it. -/
namespace SearchCriteria
namespace CommandLine

/-- What a run comes to. -/
inductive Outcome where
  | usage (u : Usage)
  | printed (text : String)
  | reported (f : Failure)
  | escaped (f : Failure)
deriving DecidableEq, Repr

namespace Outcome

/-- Some failures are reported in a line of their own, others are not caught. -/
def ofExcept : Except Failure String → Outcome
  | .ok text => .printed text
  | .error f => if f.isReported then .reported f else .escaped f

def exitCode : Outcome → Nat
  | .usage u => u.exitCode
  | .printed _ => 0
  | .reported _ => 1
  | .escaped _ => 1

def output : Outcome → String
  | .printed text => text
  | _ => ""

def complaint : Outcome → String
  | .reported f => "error: " ++ f.message ++ "\n"
  | .escaped f => f.message ++ "\n"
  | _ => ""

end Outcome

/-- The kind of what is left of a value that is taken away. -/
def emptiedKind : String := (Value.list []).kind

/-- The configuration that a run is given, or the default one. -/
def loadConfig (environment : Option String) (loader : Loader) :
    Option (Given String) → Traced Config
  | none => Config.parse environment .null
  | some (.value path) => do
    let v ← Traced.ofExcept (Document.load? loader .config path)
    Config.ofDocument environment v
  | some .emptied => Traced.ofExcept (.error (.kind (.notPath emptiedKind)))

/-- The level that the arguments name, or else the configuration. -/
def levelOf (o : Options) (c : Config) : Option String :=
  let named := match o.logLevel with
    | some (.value level) => some level
    | _ => none
  (Config.nonempty? named).or (Config.nonempty? c.logLevel)

/-- The logger of a run: the one that it finds is left alone where no level is named. -/
def loggerAt (l : Logger) : Option String → Logger × Except Failure Unit
  | none => (l, .ok ())
  | some level => l.configure (.text level)

/-- The query that a document is compiled into, if it comes to one. -/
def compileDocument (environment : Option String) (c : Config) (v : Value) :
    Traced (Option Query) := do
  let chain ← Traced.ofExcept (Chain.ofPlain? v)
  let config ← Config.underEnvironment environment c
  (Compiler.ofConfig config).compile (chain.getLastD default) chain

/-- How wide to indent, where there is such a width. -/
def width? : Option (Given Int) → Except Failure (Option Int)
  | none => .ok none
  | some (.value n) => .ok (some n)
  | some .emptied => .error (.kind (.notCount emptiedKind))

/-- What is printed for a query: its rendering, or null for none. -/
def printed? (indent : Option (Given Int)) (q : Option Query) : Except Failure String := do
  let v ← match q with
    | none => .ok .null
    | some q => q.render?
  return (← Json.render? (← width? indent) v) ++ "\n"

/-- What is printed for the document that a run is asked to compile. -/
def printDocument (environment : Option String) (loader : Loader) (o : Options) (c : Config) :
    Traced String := do
  let v ← Traced.ofExcept (Document.load? loader .criteria o.path)
  let query ← compileDocument environment c v
  Traced.ofExcept (printed? o.indent query)

/-- A run with its options, and with the logger that it finds. What is logged before a level
is set goes where it went before the run. -/
def runOptions (l : Logger) (environment : Option String) (loader : Loader) (o : Options) :
    Outcome × Transcript :=
  let (before, loaded) := l.record (loadConfig environment loader o.config)
  match loaded with
  | .error f => (.ofExcept (.error f), before)
  | .ok c =>
    match loggerAt l (levelOf o c) with
    | (_, .error f) => (.ofExcept (.error f), before)
    | (logger, .ok ()) =>
      let (after, done) := logger.record (printDocument environment loader o c)
      (.ofExcept done, before ++ after)

/-- What a run comes to with the logger that it finds, and what it has logged. -/
def runFrom (l : Logger) (environment : Option String) (loader : Loader)
    (arguments : List String) : Outcome × Transcript :=
  match Options.ofArguments arguments with
  | .error u => (.usage u, .empty)
  | .ok o => runOptions l environment loader o

/-- A run within an application, on files of JSON and YAML. -/
def run (environment : Option String) (files : Files) (arguments : List String) :
    Outcome × Transcript :=
  runFrom .embedded environment (.ofFiles files) arguments

end CommandLine
end SearchCriteria
