import SearchCriteria.Value.Written

/-! What a computation reports while it runs. The events of a computation that is refused
are those up to the refusal. -/
namespace SearchCriteria

/-- How much an event matters. -/
inductive Severity where
  | debug
  | warning
deriving DecidableEq, Repr

/-- Severities are ranked, and a logger passes on what ranks at least as high as it asks. -/
def Severity.rank : Severity → Nat
  | .debug => 10
  | .warning => 30

def Severity.name : Severity → String
  | .debug => "DEBUG"
  | .warning => "WARNING"

/-- Something to report, in words if it can be put into words. -/
structure Event where
  severity : Severity
  text : Except Failure String
deriving Repr

/-- A result or a refusal, after the events that were reported. -/
structure Traced (α : Type) where
  events : List Event
  result : Except Failure α
deriving Repr

namespace Traced

def ofExcept {α : Type} (r : Except Failure α) : Traced α := ⟨[], r⟩

def report (e : Event) : Traced Unit := ⟨[e], .ok ()⟩

def debug (text : String) : Traced Unit := report ⟨.debug, .ok text⟩

/-- An event that names a value. -/
def debugAbout (v : Value) (text : String → String) : Traced Unit :=
  report ⟨.debug, v.written?.map text⟩

def warn (text : String) : Traced Unit := report ⟨.warning, .ok text⟩

def andThen {α β : Type} (t : Traced α) (f : α → Traced β) : Traced β :=
  match t.result with
  | .ok a => ⟨t.events ++ (f a).events, (f a).result⟩
  | .error e => ⟨t.events, .error e⟩

instance : Monad Traced where
  pure a := ⟨[], .ok a⟩
  bind := andThen

instance : MonadLift (Except Failure) Traced := ⟨ofExcept⟩

end Traced
end SearchCriteria
