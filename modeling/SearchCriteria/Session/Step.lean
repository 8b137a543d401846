import SearchCriteria.Session.Outline

/-! The steps of a session that build and change objects, and those that put them in words. -/
namespace SearchCriteria
namespace Session
namespace Run

/-- The expression object that stands for an object where an expression may stand. -/
def clauseOf (o : Object) : Run QueryId := do
  match o with
  | .handle (.query i) => return i
  | .handle h =>
    let x := Foreign.value (.object ((← get).outline h))
    onQueries fun g => .ok (g.add (.foreign x))
  | .value v origin =>
    let j ← onQueries fun g => .ok (g.add (.foreign (.value v)))
    hold [(.member (.query j) "value", origin)]
    return j

/-- An expression without clauses, from the record of its kind. -/
def newRecord (k : RecordKind) (es : Entries) : Run Object := do
  let q ← ofExcept (k.ofValue? (← receive (.map es)))
  match q with
  | .leaf q =>
    let boost ← receive q.boost
    newQuery (some (.leaf ((q.withBoost? boost).getD q)))
  | q => newQuery (some q)

def newBool (r : BoolRecord QueryId) : Run Object := do
  let h := (← get).queries
  let (boost, should, mustNot, must) ←
    ofExcept ((r.check fun i => (h.cell i).isQuery).orInvalid "BoolQuery")
  let boost ← receive boost
  return .handle (.query (← onQueries fun h => .ok (h.addBool boost should mustNot must)))

/-- A request, from its record. Terms of its order that were there before stay what they
are. -/
def newRequest (r : SearchRecord NodeId QueryId) (terms : List (Nat × QueryId)) : Run Object := do
  let h := (← get).queries
  let given (v : Option Value) := (v.map Value.parts).getD []
  let fields := given r.fields
  let indices := given r.indices
  let r ← ofExcept ((r.check fun i => (h.cell i).isQuery).orInvalid Search.modelName)
  let i ← newSearch { r with minScore := ← receive r.minScore }
  modify fun s => { s with
    parts := (terms.map fun t => ((.search i, t.1), t.2)) ++ s.parts }
  hold (.ofReading fields r.fields (.member (.search i) "fields")
    ++ .ofReading indices r.indices (.member (.search i) "indices"))
  return .handle (.search i)

/-- Set the filter of a request to an expression, or to what a value stands for. -/
def withFilter (i : SearchId) (o : Object) : Run Object := do
  let filter ← match o with
    | .value v origin => match ← ofExcept (Search.filterOf? v) with
      | none => pure none
      | some (.foreign _) => do
        hold [(.member (.search i) "filter", origin)]
        pure (some (← clauseOf o))
      | some q => pure (some (← onQueries fun h => .ok (h.ofQuery q)))
    | o => pure (some (← clauseOf o))
  updateSearch i fun r => .ok (r.withFilter filter)

/-- A normal configuration, from a value or as a copy of another one. -/
def parseConfig : Object → Run Config
  | .value v _ => do traced (Config.parse (← get).environment v)
  | .handle (.config i) => do
    let s ← get
    traced (Config.underEnvironment s.environment (s.config i))
  | .handle _ => refuse (.config .notMap)

/-- Note what a configuration has in common with what it was made of. -/
def holdConfig (c : Config) (source : Object) (copy : Handle) : Run Unit := do
  let aliases := "field_aliases"
  match source with
  | .handle h =>
    let flag := "analyze_wildcard"
    hold (.ofCopy c.analyzeWildcard (.member h flag) (.member copy flag)
      ++ .ofCopy (.map c.fieldAliases) (.member h aliases) (.member copy aliases))
  | .value (.map es) _ =>
    let given := ((Entries.named? aliases es).map Value.parts).getD []
    hold (.ofReading given (c.fieldAliases.map Prod.snd) (.member copy aliases))
  | .value .. => return

def configure (source : Object) : Run Object := do
  let c ← parseConfig source
  let h ← newConfig c
  holdConfig c source h
  return .handle h

/-- Set the flag for wildcards of an object. Where no flag is kept, an object of a closed
record complains, and any other takes no notice. -/
def setFlag (o : Object) (flag : Value) : Run Object := do
  let name := "analyze_wildcard"
  match o with
  | .handle (.config i) => do
    hold [(.member (.config i) name, ← arrival flag)]
    updateConfig i fun c => .ok { c with analyzeWildcard := flag }
  | .handle (.query i) => do
    let j ← onQueries fun h => h.setFlag i flag
    hold [(.member (.query j) name, ← arrival flag)]
    return .handle (.query j)
  | .handle (.search i) => refuse (.noField ((← get).kindOf (.search i)) name)
  | .handle _ => return o
  | .value .. => lacks o name

def setAlias (i : ConfigId) (name field : Value) : Run Object := do
  let es ← ofExcept (Value.extend? ((← get).config i).fieldAliases name field)
  match Entries.position? name es with
  | some k => hold [(.item (.member (.config i) "field_aliases") k, ← arrival field)]
  | none => pure ()
  updateConfig i fun c => .ok { c with fieldAliases := es }

/-- A node on a field that was given as an object. -/
def onField (field : Object) (call : Value → Store.Call) : Run Object := do
  let v := (← get).asValue field
  let i ← onStore (·.call (call v))
  match field with
  | .value _ origin => hold [(.member (.node i) "field", origin)]
  | .handle _ => pure ()
  return .handle (.node i)

/-- One more condition in the chain of a node: all of another chain, or a field. -/
def join (i : NodeId) : Object → Run Object
  | .handle (.node j) => build (.andNode i j)
  | field => onField field (.andField i)

/-- One more alternative in the chain of a node: a copy of another node, which has its field
and the values of its entries in common with it, or a field. -/
def alternative (i : NodeId) : Object → Run Object
  | .handle (.node j) => do
    let k ← onStore (·.call (.orNode i j))
    let count := ((← get).store.node j).entries.length
    let places (i : NodeId) : List Origin := .member (.node i) "field" ::
      (List.range count).map (.item (.member (.node i) "entries"))
    hold ((places k).zip (places j))
    return .handle (.node k)
  | field => onField field (.orField i)

/-- A copy of an expression with another boost, and with all else in common. -/
def withBoost (i : QueryId) (boost : Value) : Run Object := do
  let j ← onQueries fun h => h.withBoost i boost
  match (← get).queries.cell j with
  | .leaf q =>
    let names := (q.fields.map Prod.fst).filter (· != "boost")
    hold (names.map fun name => (.member (.query j) name, .member (.query i) name))
  | _ => pure ()
  return .handle (.query j)

/-- Add a clause to a query. Nothing is checked. -/
def addClause (slot : Slot) (i : QueryId) (clause : Object) : Run Object := do
  let j ← clauseOf clause
  return .handle (.query (← onQueries fun h => h.addClause slot i j))

def chainToPlain (i : NodeId) : Run Object := do made (((← get).chain i).toPlain)

/-- Write to the stream from now on. The answer is the level, the number of places that
events go to, and whether they go on to the surroundings. -/
def configureLogging (level : Value) : Run Object := do
  let (logger, result) := (← get).logger.configure level
  modify fun s => { s with logger }
  ofExcept result
  made (.list [.int logger.level, .int 1, .bool false])

def warn (v : Value) : Run Object := do
  traced (.report ⟨.warning, v.written?⟩)
  return .null

/-- An object in words. A text is its own, and there are fixed words for the truth values and
for the empty map in a raw query. -/
def text (o : Object) : Run Object := do
  let words : Value := .text (← ofExcept ((← get).text? o))
  match o with
  | .value (.text _) _ => return o
  | .value (.bool _) _ => return .common words
  | .handle (.query i) => match (← get).queries.cell i with
    | .leaf (.raw []) => return .common words
    | _ => made words
  | _ => made words

def quoted (o : Object) : Run Object := do
  let words : Value := .text ((← get).quoted o)
  match o with
  | .value (.bool _) _ => return .common words
  | _ => made words

/-- The text that a value is searched as. A text is its own. -/
def searched (v : Value) : Run Object := do
  let words : Value := .text (searchText v)
  match v with
  | .text _ => brought v
  | .bool _ => return .common words
  | _ => made words

end Run
end Session
end SearchCriteria
