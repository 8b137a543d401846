import SearchCriteria.Log.Event
import SearchCriteria.Validation.Rule

/-! The configuration of a compiler, and how it is normalised: from nothing, from a map or
from another configuration, with the last word on the log level given to the environment. -/
namespace SearchCriteria

/-- Settings of a compiler. The flag goes on terms with wildcards; aliases name the
document field of a property. -/
structure Config where
  analyzeWildcard : Value
  fieldAliases : Entries
  logLevel : Option String
deriving DecidableEq, Repr

namespace Config

def default : Config := ⟨.bool true, [], none⟩

instance : Inhabited Config := ⟨default⟩

def ofEntries (es : Entries) : Checked Config :=
  (fun w a l => ⟨.bool w, a, l⟩) <$> Entries.withDefault "analyze_wildcard" Rule.flag true es
    <*> Entries.withDefault "field_aliases"
      (Rule.table fun v => (Rule.text v).map .text) [] es
    <*> Entries.withDefault "log_level" (Rule.optional Rule.text) none es

/-- The name of the variable that has the last word on the log level. -/
def levelVariable : String := "ESDATA_LOG_LEVEL"

/-- A text that counts, which the empty one does not. -/
def nonempty? (s : Option String) : Option String := s.filter (· != "")

/-- The level of the environment replaces any other, and says so when there is another. -/
def underEnvironment (env : Option String) (c : Config) : Traced Config :=
  match nonempty? env with
  | none => pure c
  | some level => do
    match nonempty? c.logLevel with
    | some own =>
      if own != level then
        Traced.warn ("Log level " ++ own ++ " overridden by " ++ levelVariable ++ "=" ++ level)
    | none => pure ()
    return { c with logLevel := some level }

/-- The configuration that a value describes, before the environment is asked. -/
def ofValue? : Value → Except Failure Config
  | .null => .ok default
  | .map es => match ofEntries es with
    | .ok c => .ok c
    | .bad issues => .error (.config (.invalid issues))
  | _ => .error (.config .notMap)

def parse (env : Option String) (v : Value) : Traced Config := do
  let c ← Traced.ofExcept (ofValue? v)
  underEnvironment env c

/-- The normal configuration of a file. A document that counts as nothing is taken for an
empty one. -/
def ofDocument (env : Option String) (v : Value) : Traced Config :=
  parse env (if v.truthy then v else .map [])

def equal (a b : Config) : Bool :=
  a.analyzeWildcard.alike b.analyzeWildcard
    && (Value.map a.fieldAliases).alike (.map b.fieldAliases) && a.logLevel == b.logLevel

end Config
end SearchCriteria
