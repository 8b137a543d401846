import SearchCriteria.Log.Event
import SearchCriteria.Text.Capital
import SearchCriteria.Value.Basic

/-! Where events go. A logger hands them to whoever embeds it until it is told to write
them to a stream, at a level that is given by name. -/
namespace SearchCriteria

/-- The state of a logger. Level zero leaves the choice to the surroundings. -/
structure Logger where
  level : Nat
  streaming : Bool
deriving DecidableEq, Repr

/-- What an attribute that is written in capitals stands for. -/
inductive LevelName where
  | rank (n : Nat)
  | format
  | styles
deriving DecidableEq, Repr

namespace Logger

/-- The logger that an embedding application has set up. -/
def embedded : Logger := ⟨10, false⟩

/-- The logger that nobody has set up. -/
def untouched : Logger := ⟨0, false⟩

def levelNames : List (String × LevelName) :=
  [("CRITICAL", .rank 50), ("FATAL", .rank 50), ("ERROR", .rank 40), ("WARNING", .rank 30),
    ("WARN", .rank 30), ("INFO", .rank 20), ("DEBUG", .rank 10), ("NOTSET", .rank 0),
    ("BASIC_FORMAT", .format), ("_STYLES", .styles)]

/-- The level of events that information and worse have. -/
def standardLevel : LevelName := .rank 20

/-- What a name stands for, in any case; an unknown one stands for the standard level. -/
def levelNamed (name : String) : LevelName :=
  (levelNames.lookup (capitalized name)).getD standardLevel

/-- What a given level stands for. What counts as nothing stands for the standard level,
and only a text has a capital form that can be looked up. -/
def levelOf? (v : Value) : Except Failure LevelName :=
  if !v.truthy then .ok standardLevel
  else match v with
    | .text s => .ok (levelNamed s)
    | .bytes _ => .error (.kind (.notName v.kind))
    | v => .error (.noAttribute v.kind "upper")

/-- Write to the stream from now on, at a given level. The stream is in place before the
level is set, and stays when the level cannot be. -/
def configure (l : Logger) (level : Value) : Logger × Except Failure Unit :=
  match levelOf? level with
  | .error e => (l, .error e)
  | .ok (.rank n) => (⟨n, true⟩, .ok ())
  | .ok .format => ({ l with streaming := true }, .error (.choice .level))
  | .ok .styles => ({ l with streaming := true }, .error (.kind .level))

/-- The rank from which on events are passed on. -/
def threshold (l : Logger) : Nat := if l.level == 0 then 30 else l.level

def passes (l : Logger) (e : Event) : Bool := l.threshold ≤ e.severity.rank

end Logger

/-- What has come out of a logger: lines for the application, and text on the stream. -/
structure Transcript where
  lines : List String
  stream : String
deriving DecidableEq, Repr

namespace Transcript

def empty : Transcript := ⟨[], ""⟩

def append (t u : Transcript) : Transcript := ⟨t.lines ++ u.lines, t.stream ++ u.stream⟩

instance : Append Transcript := ⟨append⟩

/-- The line on the stream for what an event says. The time of day is left open. -/
def streamLine (severity : Severity) (text : String) : String :=
  "<time> [" ++ severity.name ++ "] esdata: " ++ text ++ "\n"

/-- The line of an event on the stream. What has no words has no line. -/
def streamLine? (e : Event) : Option String := e.text.toOption.map (streamLine e.severity)

end Transcript

/-- The lines of events for an application, up to the first one that has no words, and
whether there is one. -/
def handOver : List Event → List String × Except Failure Unit
  | [] => ([], .ok ())
  | e :: es => match e.text with
    | .error f => ([], .error f)
    | .ok text =>
      let (lines, outcome) := handOver es
      ((e.severity.name ++ " " ++ text) :: lines, outcome)

/-- What comes out of a logger for a computation, and what the computation comes to. It does
not get past an event that an application is to be handed and that has no words. -/
def Logger.record {α : Type} (l : Logger) (t : Traced α) : Transcript × Except Failure α :=
  let passed := t.events.filter l.passes
  if l.streaming then (⟨[], String.join (passed.filterMap Transcript.streamLine?)⟩, t.result)
  else
    let (lines, outcome) := handOver passed
    (⟨lines, ""⟩, outcome.bind fun _ => t.result)

end SearchCriteria
