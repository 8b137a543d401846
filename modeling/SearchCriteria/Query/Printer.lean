import SearchCriteria.Json.Writer
import SearchCriteria.Query.Basic

/-! Query expressions in words, and in the quoted form that messages show. -/
namespace SearchCriteria

/-- A boost follows what it boosts. -/
def boostText : Value → String
  | .null => ""
  | v => "^" ++ v.plain

namespace FieldQuery

def text (q : FieldQuery) : String := q.field ++ ":" ++ termText q.value ++ boostText q.boost

def quoted (q : FieldQuery) : String :=
  "FieldQuery(boost=" ++ q.boost.quoted ++ ", field=" ++ quotedText q.field ++ ", value="
    ++ q.value.quoted ++ ", analyze_wildcard=" ++ q.analyzeWildcard.quoted ++ ")"

end FieldQuery

namespace TextQuery

def text (q : TextQuery) : String :=
  (match q.field with
    | none => ""
    | some f => f ++ ":") ++ "(" ++ q.query ++ ")" ++ boostText q.boost

def quoted (q : TextQuery) : String :=
  "QueryStringQuery(boost=" ++ q.boost.quoted ++ ", query=" ++ quotedText q.query ++ ", field="
    ++ (Value.ofText? q.field).quoted ++ ")"

end TextQuery

namespace RangeQuery

def text (q : RangeQuery) : String :=
  q.field ++ ":" ++ (if q.includeLower then "[" else "\x7b") ++ termText q.lower ++ " TO "
    ++ termText q.upper ++ (if q.includeUpper then "]" else "\x7d") ++ boostText q.boost

def quoted (q : RangeQuery) : String :=
  "RangeQuery(boost=" ++ q.boost.quoted ++ ", field=" ++ quotedText q.field ++ ", from_="
    ++ q.lower.quoted ++ ", to=" ++ q.upper.quoted ++ ", include_lower="
    ++ (Value.bool q.includeLower).quoted ++ ", include_upper="
    ++ (Value.bool q.includeUpper).quoted ++ ")"

end RangeQuery

namespace FuzzyQuery

def text (q : FuzzyQuery) : String := q.field ++ ":" ++ q.value ++ "~" ++ boostText q.boost

def quoted (q : FuzzyQuery) : String :=
  "FuzzyQuery(boost=" ++ q.boost.quoted ++ ", field=" ++ quotedText q.field ++ ", value="
    ++ quotedText q.value ++ ")"

end FuzzyQuery

namespace SortTerm

def text (t : SortTerm) : String := t.field ++ " " ++ t.direction.name

def quoted (t : SortTerm) : String :=
  "SortField(field=" ++ quotedText t.field ++ ", direction=" ++ t.direction.quoted ++ ")"

end SortTerm

namespace Leaf

/-- A query in words. A raw query is its own JSON text, if it has one. -/
def text? : Leaf → Except Failure String
  | .field q => .ok q.text
  | .text q => .ok q.text
  | .range q => .ok q.text
  | .fuzzy q => .ok q.text
  | .raw body => Json.strict? (.map body)

def quoted : Leaf → String
  | .field q => q.quoted
  | .text q => q.quoted
  | .range q => q.quoted
  | .fuzzy q => q.quoted
  | .raw body => "RawQuery(body=" ++ (Value.map body).quoted ++ ")"

end Leaf

namespace Foreign

def text : Foreign → String
  | .value v => v.plain
  | .entry e => e.text
  | .sort t => t.text

def quoted : Foreign → String
  | .value v => v.quoted
  | .entry e => e.quoted
  | .sort t => t.quoted

end Foreign

namespace Query

mutual

/-- A query in words: clauses that must not match have a minus, those that must a plus. -/
def text? : Query → Except Failure String
  | .leaf q => q.text?
  | .foreign x => .ok x.text
  | .bool boost should mustNot must => do
    let should ← texts? "" should
    let mustNot ← texts? "-" mustNot
    let must ← texts? "+" must
    return "(" ++ String.intercalate " " (should ++ mustNot ++ must) ++ ")" ++ boostText boost

def texts? (mark : String) : List Query → Except Failure (List String)
  | [] => .ok []
  | q :: qs => do
    let t ← text? q
    let ts ← texts? mark qs
    return (mark ++ t) :: ts

end

mutual

def quoted : Query → String
  | .leaf q => q.quoted
  | .foreign x => x.quoted
  | .bool boost should mustNot must =>
    "BoolQuery(boost=" ++ boost.quoted ++ ", should=[" ++ String.intercalate ", " (quotedAll should)
      ++ "], must_not=[" ++ String.intercalate ", " (quotedAll mustNot)
      ++ "], must=[" ++ String.intercalate ", " (quotedAll must) ++ "])"

def quotedAll : List Query → List String
  | [] => []
  | q :: qs => quoted q :: quotedAll qs

end

end Query
end SearchCriteria
