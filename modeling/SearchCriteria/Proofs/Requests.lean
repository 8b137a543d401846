import SearchCriteria.Proofs.Sense
import SearchCriteria.Search.Render

/-! What a request is after calls on it, some of which may have been refused. Each part of it comes
from the calls that are about this part, so that calls about different parts may be made in any
order, and the rendered request says what each part is. -/
namespace SearchCriteria
namespace Search
open Entries (named? Labelled)

/-- A part of a request that calls are about. -/
inductive Part where
  | filter
  | fields
  | sort
  | minScore
  | indices
deriving DecidableEq

namespace Call

def part : Call → Part
  | .filter _ => .filter
  | .fields _ => .fields
  | .sort _ _ => .sort
  | .minScore _ => .minScore
  | .indices _ => .indices

/-- The filter, or none, that a call sets. -/
@[simp] def filterSet? : Call → Option (Option Query)
  | .filter (.query q) => some (some q)
  | .filter (.value v) => (filterOf? v).toOption
  | _ => none

@[simp] def fieldsAdded? : Call → Option (List Value)
  | .fields names => some names
  | _ => none

@[simp] def termAdded? : Call → Option SortTerm
  | .sort field direction => (sortTerm? field direction).toOption
  | _ => none

@[simp] def scoreSet? : Call → Option Value
  | .minScore score => match isNegative? score with
    | .ok false => some score
    | _ => none
  | _ => none

@[simp] def indicesAdded? : Call → Option (List Value)
  | .indices names => some names
  | _ => none

/-- A call sets or adds nothing but what it is about. -/
theorem about_part (c : Call) :
    (c.part ≠ .filter → c.filterSet? = none) ∧ (c.part ≠ .fields → c.fieldsAdded? = none) ∧
    (c.part ≠ .sort → c.termAdded? = none) ∧ (c.part ≠ .minScore → c.scoreSet? = none) ∧
    (c.part ≠ .indices → c.indicesAdded? = none) := by
  cases c <;> simp [part]

/-- A score that is set can be compared with zero, so it is not null. -/
theorem scoreSet?_ne_null {c : Call} {v : Value} (set : c.scoreSet? = some v) : v ≠ .null := by
  rintro rfl
  cases c with
  | minScore score =>
    simp only [scoreSet?] at set
    split at set
    · rename_i compared
      rw [Option.some.inj set] at compared
      cases compared
    · cases set
  | _ => cases set

end Call

variable {ν : Type} {s : Search ν Query} {cs ds : List Call}

/-- What was set last, or what there was before. -/
def lastSet {α : Type} (set? : Call → Option α) (cs : List Call) (old : α) : α :=
  (cs.filterMap set?).getLast?.getD old

theorem lastSet_cons {α : Type} (set? : Call → Option α) (c : Call) (cs : List Call) (old : α) :
    lastSet set? (c :: cs) old = lastSet set? cs ((set? c).getD old) := by
  unfold lastSet
  cases made : set? c with
  | none => rw [List.filterMap_cons_none made, Option.getD_none]
  | some a =>
    rw [List.filterMap_cons_some made, List.getLast?_cons, Option.getD_some, Option.getD_some]

/-- A call sets or adds what it is for, unless it is refused, and nothing else. -/
theorem after_eq (c : Call) : s.after c = { s with
    filter := c.filterSet?.getD s.filter
    fields := s.fields ++ c.fieldsAdded?.getD []
    sort := s.sort ++ c.termAdded?.toList
    minScore := c.scoreSet?.getD s.minScore
    indices := s.indices ++ c.indicesAdded?.getD [] } := by
  cases c with
  | fields names => simp [after, call, withFields]
  | indices names => simp [after, call, withIndices]
  | filter arg =>
    cases arg with
    | query q => simp [after, call, withFilter]
    | value v =>
      cases made : filterOf? v <;>
        simp [after, call, withFilter, made, Except.map, Except.toOption]
  | sort field direction =>
    cases made : sortTerm? field direction <;>
      simp [after, call, withSort?, made, Except.map, Except.toOption]
  | minScore score =>
    cases made : isNegative? score with
    | error e => simp [after, call, withMinScore?, made]
    | ok negative => cases negative <;> simp [after, call, withMinScore?, made]

theorem run_eq (cs : List Call) : s.run cs = { s with
    filter := lastSet Call.filterSet? cs s.filter
    fields := s.fields ++ (cs.filterMap Call.fieldsAdded?).flatten
    sort := s.sort ++ cs.filterMap Call.termAdded?
    minScore := lastSet Call.scoreSet? cs s.minScore
    indices := s.indices ++ (cs.filterMap Call.indicesAdded?).flatten } := by
  have added {α : Type} (f : Call → Option (List α)) (c : Call) (cs : List Call) :
      ((c :: cs).filterMap f).flatten = (f c).getD [] ++ (cs.filterMap f).flatten := by
    cases made : f c with
    | none => rw [List.filterMap_cons_none made, Option.getD_none, List.nil_append]
    | some a => rw [List.filterMap_cons_some made, Option.getD_some, List.flatten_cons]
  have term (c : Call) (cs : List Call) : (c :: cs).filterMap Call.termAdded? =
      c.termAdded?.toList ++ cs.filterMap Call.termAdded? := by
    cases made : c.termAdded? with
    | none => rw [List.filterMap_cons_none made, Option.toList_none, List.nil_append]
    | some a => rw [List.filterMap_cons_some made, Option.toList_some, List.singleton_append]
  induction cs generalizing s with
  | nil => simp [run, lastSet]
  | cons c cs ih =>
    change (s.after c).run cs = _
    rw [ih, after_eq, lastSet_cons, lastSet_cons, added, added, term]
    simp only [List.append_assoc]

/-- What is about one part is what it is among the calls about this part. -/
theorem filterMap_part {α : Type} {f : Call → Option α} (p : Part)
    (own : ∀ c, c.part ≠ p → f c = none) (cs : List Call) :
    (cs.filter (·.part = p)).filterMap f = cs.filterMap f := by
  induction cs with
  | nil => rfl
  | cons c cs ih =>
    by_cases about : c.part = p
    · have kept : (c :: cs).filter (·.part = p) = c :: cs.filter (·.part = p) :=
        List.filter_cons_of_pos (decide_eq_true about)
      rw [kept, List.filterMap_cons, List.filterMap_cons, ih]
    · have left : (c :: cs).filter (·.part = p) = cs.filter (·.part = p) :=
        List.filter_cons_of_neg (by simpa using about)
      rw [left, List.filterMap_cons_none (own c about), ih]

/-- Calls that are the same, in the same order, about each part. -/
def SameByPart (cs ds : List Call) : Prop := ∀ p, cs.filter (·.part = p) = ds.filter (·.part = p)

theorem SameByPart.filterMap_eq {α : Type} {f : Call → Option α} (same : SameByPart cs ds)
    (p : Part) (own : ∀ c, c.part ≠ p → f c = none) : cs.filterMap f = ds.filterMap f := by
  rw [← filterMap_part p own cs, same p, filterMap_part p own ds]

/-- What a request is does not depend on the order of calls about different parts. -/
theorem run_eq_of_sameByPart (same : SameByPart cs ds) : s.run cs = s.run ds := by
  have filter : cs.filterMap Call.filterSet? = ds.filterMap Call.filterSet? :=
    same.filterMap_eq .filter fun c => c.about_part.1
  have fields : cs.filterMap Call.fieldsAdded? = ds.filterMap Call.fieldsAdded? :=
    same.filterMap_eq .fields fun c => c.about_part.2.1
  have sort : cs.filterMap Call.termAdded? = ds.filterMap Call.termAdded? :=
    same.filterMap_eq .sort fun c => c.about_part.2.2.1
  have score : cs.filterMap Call.scoreSet? = ds.filterMap Call.scoreSet? :=
    same.filterMap_eq .minScore fun c => c.about_part.2.2.2.1
  have indices : cs.filterMap Call.indicesAdded? = ds.filterMap Call.indicesAdded? :=
    same.filterMap_eq .indices fun c => c.about_part.2.2.2.2
  rw [run_eq, run_eq, lastSet, lastSet, lastSet, lastSet, filter, fields, sort, score, indices]

section Render
variable {names : List Value} {es : Entries} {name : String}

/-- The text that a name is, or what is wrong with the name in its place. -/
def textAt (f : Nat → Nat) (i : Nat) : Value → Except Failure String
  | .text s => .ok s
  | v => .error (.kind (.notJoinable (f i) v.kind))

theorem textAt_eq_ok_iff {f : Nat → Nat} {i : Nat} {v : Value} {text : String} :
    textAt f i v = .ok text ↔ v = .text text := by
  cases v <;> simp [textAt]

theorem mapM_textAt_eq_ok_iff {f : Nat → Nat} {texts : List String} :
    (names.mapIdx (textAt f)).mapM id = .ok texts ↔ names = texts.map .text := by
  induction names generalizing f texts with
  | nil =>
    rw [List.mapIdx_nil, mapM_eq_ok_iff, List.forall₂_nil_left_iff, List.nil_eq,
      List.map_eq_nil_iff]
  | cons v names ih =>
    have rest : (names.mapIdx fun i => textAt f (i + 1)) =
        names.mapIdx (textAt fun i => f (i + 1)) := rfl
    rw [List.mapIdx_cons, rest, mapM_eq_ok_iff, List.forall₂_cons_left_iff]
    constructor
    · rintro ⟨text, others, first, later, rfl⟩
      rw [← mapM_eq_ok_iff, ih] at later
      rw [List.map_cons, ← later, textAt_eq_ok_iff.mp first]
    · intro whole
      cases texts with
      | nil => cases whole
      | cons text others =>
        obtain ⟨first, later⟩ := List.cons.inj whole
        refine ⟨text, others, textAt_eq_ok_iff.mpr first, ?_, rfl⟩
        rw [← mapM_eq_ok_iff, ih]
        exact later

/-- Names can be joined when all of them are texts. -/
theorem joined?_eq_ok_iff {text : String} : joined? names = .ok text ↔
    ∃ texts : List String, names = texts.map .text ∧ String.intercalate "," texts = text := by
  have same : joined? names =
      ((names.mapIdx (textAt id)).mapM id).map (String.intercalate ",") := rfl
  rw [same, map_eq_ok_iff]
  simp only [mapM_textAt_eq_ok_iff]

theorem indexArgument?_eq_ok_iff : indexArgument? names = .ok es ↔
    ∃ texts : List String, names = texts.map .text ∧
      es = if texts = [] then [] else [(.text "index", .text (String.intercalate "," texts))] := by
  cases names with
  | nil => simp [indexArgument?, eq_comm]
  | cons v names =>
    have some {texts : List String} (whole : v :: names = texts.map .text) : texts ≠ [] := by
      rintro rfl
      cases whole
    rw [indexArgument?, List.isEmpty_cons, if_neg Bool.false_ne_true, map_eq_ok_iff]
    constructor
    · rintro ⟨text, joined, rfl⟩
      obtain ⟨texts, whole, rfl⟩ := joined?_eq_ok_iff.mp joined
      exact ⟨texts, whole, (if_neg (some whole)).symm⟩
    · rintro ⟨texts, whole, rfl⟩
      exact ⟨_, joined?_eq_ok_iff.mpr ⟨texts, whole, rfl⟩, (if_neg (some whole)).symm⟩

/-- A query rendered, where there is one. -/
def rendered? : Option Query → Except Failure (Option Value)
  | none => .ok none
  | some q => q.render?.map some

theorem queryArgument?_eq_ok_iff {q : Option Query} : queryArgument? name q = .ok es ↔
    ∃ r, rendered? q = .ok r ∧ es = (r.map fun v => (Value.text name, v)).toList := by
  cases q with
  | none => simp [queryArgument?, rendered?, eq_comm]
  | some q => cases made : q.render? <;> simp [queryArgument?, rendered?, made, Except.map, eq_comm]

/-- What the criteria of a request are compiled into, if there are any. -/
def compiled (c : Compiler) : Option (Criterion × Chain) → Traced (Option Query)
  | none => pure none
  | some (node, chain) => c.compile node chain

/-- The parts of a rendered request, in their order. -/
def listed (s : Search ν Query) (index query filter : Entries) : Entries :=
  index ++ query ++ filter ++ slot? "source" s.fields
    ++ (if s.sort.isEmpty then [] else [(.text "sort", renderSort s.sort)])
    ++ argument? "min_score" s.minScore

theorem render_eq_ok_iff {c : Compiler} {s : Search (Criterion × Chain) Query} {v : Value} :
    (s.render c).result = .ok v ↔ ∃ index, indexArgument? s.indices = .ok index ∧
      ∃ q, (compiled c s.criteria).result = .ok q ∧
      ∃ query, queryArgument? "query" q = .ok query ∧
      ∃ filter, queryArgument? "post_filter" s.filter = .ok filter ∧
        .map (s.listed index query filter) = v := by
  have parts : (s.render c).result = (do
      let index ← indexArgument? s.indices
      let q ← (compiled c s.criteria).result
      let query ← queryArgument? "query" q
      let filter ← queryArgument? "post_filter" s.filter
      return .map (s.listed index query filter)) := by
    rw [render]
    cases s.criteria with
    | none =>
      simp only [Traced.result_bind, Traced.result_ofExcept]
      rfl
    | some known =>
      simp only [Traced.result_bind, Traced.result_ofExcept]
      rfl
  simp only [parts, bind_eq_ok_iff, pure, Except.pure, Except.ok.injEq]

/-- A request about a chain, or about none, for which nothing else is asked so far. -/
def start (criteria : Option ν) : Search ν Query := ⟨criteria, none, [], [], .null, []⟩

/-- What a request holds when it is rendered after calls: for each part what the calls have set or
added, where they have set or added something, and nothing else. -/
structure Holds (c : Compiler) (criteria : Option (Criterion × Chain)) (cs : List Call)
    (es : Entries) : Prop where
  index : ∃ texts : List String, (cs.filterMap Call.indicesAdded?).flatten = texts.map .text ∧
    named? "index" es = if texts = [] then none else some (.text (String.intercalate "," texts))
  query : ∃ q, (compiled c criteria).result = .ok q ∧ rendered? q = .ok (named? "query" es)
  filter : rendered? (lastSet Call.filterSet? cs none) = .ok (named? "post_filter" es)
  source : named? "source" es =
    if (cs.filterMap Call.fieldsAdded?).flatten = [] then none
    else some (.list (cs.filterMap Call.fieldsAdded?).flatten)
  sort : named? "sort" es =
    if cs.filterMap Call.termAdded? = [] then none
    else some (renderSort (cs.filterMap Call.termAdded?))
  minScore : named? "min_score" es = (cs.filterMap Call.scoreSet?).getLast?
  keys : Labelled ["index", "query", "post_filter", "source", "sort", "min_score"] es

theorem labelled_listed (s : Search ν Query) (texts : List String) (query filter : Option Value) :
    Labelled ["index", "query", "post_filter", "source", "sort", "min_score"]
      (s.listed (if texts = [] then [] else [(.text "index", .text (String.intercalate "," texts))])
        (query.map fun v => (Value.text "query", v)).toList
        (filter.map fun v => (Value.text "post_filter", v)).toList) := by
  have optional (name : String) (r : Option Value) :
      Labelled [name] (r.map fun v => (Value.text name, v)).toList := by
    cases r with
    | none => exact List.nil_sublist _
    | some v => exact Entries.labelled_single
  have guarded (name : String) (absent : Prop) [Decidable absent] (v : Value) :
      Labelled [name] (if absent then [] else [(.text name, v)]) := by
    split
    · exact List.nil_sublist _
    · exact Entries.labelled_single
  have argument : Labelled ["min_score"] (argument? "min_score" s.minScore) :=
    Entries.labelled_argument?
  have slot : Labelled ["source"] (slot? "source" s.fields) := Entries.labelled_slot?
  have queries := Entries.labelled_append
    (Entries.labelled_append (guarded "index" (texts = []) (.text (String.intercalate "," texts)))
      (optional "query" query)) (optional "post_filter" filter)
  have order := guarded "sort" (s.sort.isEmpty = true) (renderSort s.sort)
  exact Entries.labelled_append
    (Entries.labelled_append (Entries.labelled_append queries slot) order) argument

/-- Each part of a rendered request stands under its name, and no other part does. -/
theorem named?_listed (s : Search ν Query) (texts : List String) (query filter : Option Value) :
    let es := s.listed
      (if texts = [] then [] else [(.text "index", .text (String.intercalate "," texts))])
      (query.map fun v => (Value.text "query", v)).toList
      (filter.map fun v => (Value.text "post_filter", v)).toList
    named? "index" es =
        (if texts = [] then none else some (.text (String.intercalate "," texts))) ∧
      named? "query" es = query ∧ named? "post_filter" es = filter ∧
      named? "source" es = (if s.fields = [] then none else some (.list s.fields)) ∧
      named? "sort" es = (if s.sort = [] then none else some (renderSort s.sort)) ∧
      named? "min_score" es = (if s.minScore = .null then none else some s.minScore) := by
  have optional (name other : String) (r : Option Value) :
      named? name (r.map fun v => (Value.text other, v)).toList =
        if other = name then r else none := by
    cases r <;> simp
  have guarded (name other : String) (absent : Prop) [Decidable absent] (v : Value) :
      named? name (if absent then [] else [(.text other, v)]) =
        if other = name ∧ ¬ absent then some v else none := by
    by_cases none : absent <;> simp [none]
  refine ⟨?_, ?_, ?_, ?_, ?_, ?_⟩
  all_goals simp [listed, Entries.named?_append, optional, guarded]

/-- The score that is set last, if one is set. -/
theorem lastSet_score (cs : List Call) :
    let score := lastSet Call.scoreSet? cs .null
    (if score = .null then none else some score) = (cs.filterMap Call.scoreSet?).getLast? := by
  cases last : (cs.filterMap Call.scoreSet?).getLast? with
  | none => simp [lastSet, last]
  | some v =>
    obtain ⟨c, _, set⟩ := List.mem_filterMap.mp (List.mem_of_getLast? last)
    simp [lastSet, last, Call.scoreSet?_ne_null set]

theorem holds_of_render {c : Compiler} {criteria : Option (Criterion × Chain)} {v : Value}
    (rendered : (((start criteria).run cs).render c).result = .ok v) :
    ∃ es, v = .map es ∧ Holds c criteria cs es := by
  obtain ⟨index, joined, q, made, query, first, filter, second, rfl⟩ := render_eq_ok_iff.mp rendered
  obtain ⟨texts, whole, rfl⟩ := indexArgument?_eq_ok_iff.mp joined
  obtain ⟨r, queried, rfl⟩ := queryArgument?_eq_ok_iff.mp first
  obtain ⟨t, filtered, rfl⟩ := queryArgument?_eq_ok_iff.mp second
  have parts := named?_listed ((start criteria).run cs) texts r t
  have keys := labelled_listed ((start criteria).run cs) texts r t
  simp only [run_eq, start, List.nil_append] at whole made filtered parts keys
  obtain ⟨index, query, filter, source, sort, score⟩ := parts
  simp only [run_eq, start, List.nil_append]
  exact ⟨_, rfl, {
    index := ⟨texts, whole, index⟩
    query := ⟨q, made, by rw [query, queried]⟩
    filter := by rw [filter, filtered]
    source := source
    sort := sort
    minScore := by rw [score, lastSet_score]
    keys := keys }⟩

/-- What a request is rendered as depends on the calls about each part alone, refused calls among
them, and not on how calls about different parts were mixed. It holds what was set last or added,
part by part. -/
theorem render_of_calls (c : Compiler) (criteria : Option (Criterion × Chain)) (cs : List Call) :
    (∀ ds, SameByPart cs ds →
      ((start criteria).run ds).render c = ((start criteria).run cs).render c) ∧
    ∀ v, (((start criteria).run cs).render c).result = .ok v →
      ∃ es, v = .map es ∧ Holds c criteria cs es := by
  refine ⟨fun ds same => ?_, fun v rendered => holds_of_render rendered⟩
  rw [run_eq_of_sameByPart same]

/-- A lowest score of zero is kept, also when a score that is none is refused after it. -/
theorem render_of_calls_sample :
    let c := Compiler.ofConfig .default
    let cs := [Call.minScore (.int 0), .minScore (.text "high"), .fields [.text "name"]]
    let ds := [Call.fields [.text "name"], .minScore (.int 0), .minScore (.text "high")]
    ((start none).run ds).render c = ((start none).run cs).render c ∧
      ∃ es, (((start none).run cs).render c).result = .ok (.map es) ∧
        named? "min_score" es = some (.int 0) := by
  intro c cs ds
  obtain ⟨order, holds⟩ := render_of_calls c none cs
  have same : SameByPart cs ds := by
    intro p
    cases p <;> rfl
  have rendered : ∃ v, (((start none).run cs).render c).result = .ok v := ⟨_, rfl⟩
  obtain ⟨v, result⟩ := rendered
  obtain ⟨es, rfl, parts⟩ := holds v result
  exact ⟨order ds same, es, result, parts.minScore⟩

end Render

end Search
end SearchCriteria
