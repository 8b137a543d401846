import SearchCriteria.Query.Basic

/-! Content equality of what a query is made of. Two of a kind are equal when each field of
the one is the same as that of the other or equal to it. -/
namespace SearchCriteria

namespace FieldQuery

def alike (p q : FieldQuery) : Bool :=
  p.boost.alike q.boost && p.field == q.field && p.value.alike q.value
    && p.analyzeWildcard.alike q.analyzeWildcard

end FieldQuery

namespace TextQuery

def alike (p q : TextQuery) : Bool :=
  p.boost.alike q.boost && p.query == q.query && p.field == q.field

end TextQuery

namespace RangeQuery

def alike (p q : RangeQuery) : Bool :=
  p.boost.alike q.boost && p.field == q.field && p.lower.alike q.lower && p.upper.alike q.upper
    && p.includeLower == q.includeLower && p.includeUpper == q.includeUpper

end RangeQuery

namespace FuzzyQuery

def alike (p q : FuzzyQuery) : Bool :=
  p.boost.alike q.boost && p.field == q.field && p.value == q.value

end FuzzyQuery

namespace Leaf

def alike : Leaf → Leaf → Bool
  | .field p, .field q => p.alike q
  | .text p, .text q => p.alike q
  | .range p, .range q => p.alike q
  | .fuzzy p, .fuzzy q => p.alike q
  | .raw b, .raw c => (Value.map b).alike (.map c)
  | _, _ => false

end Leaf

namespace Foreign

/-- Objects are compared as they compare elsewhere. -/
def alike (peers : Handle → Handle → Bool) : Foreign → Foreign → Bool
  | .value (.object o), .value (.object p) => peers o.handle p.handle
  | .value v, .value w => v.alike w
  | .entry d, .entry e => d.operation == e.operation && d.value.alike e.value
  | .sort s, .sort t => s == t
  | _, _ => false

end Foreign
end SearchCriteria
