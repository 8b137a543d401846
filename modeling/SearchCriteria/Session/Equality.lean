import SearchCriteria.Session.Outline

/-! When two objects of a session are equal. -/
namespace SearchCriteria
namespace Session

/-- Whether two objects are the same or have equal content, down to a depth. Nodes and
compilers have no content to compare. -/
def equalTo (s : Session) : Nat → Handle → Handle → Bool
  | 0, a, b => a == b
  | depth + 1, a, b => a == b || match a, b with
    | .query i, .query j => s.queries.equalTo (s.equalTo depth) (s.queries.cells.size + 1) i j
    | .config i, .config j => (s.config i).equal (s.config j)
    | .search i, .search j =>
      let p := s.search i
      let q := s.search j
      let filters := match p.filter, q.filter with
        | none, none => true
        | some f, some g => s.queries.equalTo (s.equalTo depth) (s.queries.cells.size + 1) f g
        | _, _ => false
      p.criteria == q.criteria && filters && Value.alikeItems p.fields q.fields
        && p.sort == q.sort && p.minScore.alike q.minScore
        && Value.alikeItems p.indices q.indices
    | _, _ => false

def equal (s : Session) (a b : Object) : Bool :=
  match a, b with
  | .value v _, .value w _ => v.equal w
  | .handle a, .handle b => s.equalTo s.depth a b
  | _, _ => false

end Session
end SearchCriteria
