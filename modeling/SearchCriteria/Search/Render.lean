import SearchCriteria.Compiler.Basic
import SearchCriteria.Query.Render
import SearchCriteria.Search.Basic

/-! Search requests in the form in which the engine takes them. -/
namespace SearchCriteria
namespace Search

/-- Names with commas between them; each has to be a text. -/
def joined? (names : List Value) : Except Failure String :=
  let texts := names.mapIdx fun i v => match v with
    | .text s => (.ok s : Except Failure String)
    | v => .error (.kind (.notJoinable i v.kind))
  (texts.mapM id).map (String.intercalate ",")

def indexArgument? (names : List Value) : Except Failure Entries :=
  if names.isEmpty then .ok [] else (joined? names).map fun s => [(.text "index", .text s)]

def queryArgument? (name : String) : Option Query → Except Failure Entries
  | none => .ok []
  | some q => q.render?.map fun v => [(.text name, v)]

/-- A request, rendered. What is not asked for is left out. -/
def render (c : Compiler) (s : Search (Criterion × Chain) Query) : Traced Value := do
  let index ← Traced.ofExcept (indexArgument? s.indices)
  let compiled ← match s.criteria with
    | none => pure none
    | some (node, chain) => c.compile node chain
  let query ← Traced.ofExcept (queryArgument? "query" compiled)
  let filter ← Traced.ofExcept (queryArgument? "post_filter" s.filter)
  let sort := if s.sort.isEmpty then [] else [(.text "sort", renderSort s.sort)]
  return .map (index ++ query ++ filter ++ slot? "source" s.fields ++ sort
    ++ argument? "min_score" s.minScore)

end Search
end SearchCriteria
