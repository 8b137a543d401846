import Mathlib.Algebra.Group.Int.Defs
import SearchCriteria.Proofs.Membership
import SearchCriteria.Proofs.Refusals

/-! What a configuration has to do with compiling. It maps the names of fields, once and before
anything else, and sets the flag of terms with wildcards. All else is what it is under no
configuration, so that compiling under one is compiling renamed criteria and setting the flags. -/
namespace SearchCriteria

/-- A name of a property under a mapping of names, and no name as it is. -/
def Value.renamed (f : String → String) : Value → Value
  | .text s => .text (f s)
  | v => v

def Criterion.renamed (f : String → String) (n : Criterion) : Criterion :=
  { n with field := n.field.renamed f }

def Chain.renamed (f : String → String) (chain : Chain) : Chain := chain.map (·.renamed f)

/-- A leaf with another flag for wildcards, where it has one. -/
def Leaf.flagged (flag : Value) : Leaf → Leaf
  | .field q =>
    .field { q with analyzeWildcard := if q.analyzeWildcard.isNull then .null else flag }
  | l => l

namespace Query

mutual

/-- A query all of whose leaves have another flag for wildcards, where they have one. -/
def flagged (flag : Value) : Query → Query
  | .leaf l => .leaf (l.flagged flag)
  | .bool boost should mustNot must =>
    .bool boost (allFlagged flag should) (allFlagged flag mustNot) (allFlagged flag must)
  | .foreign x => .foreign x

def allFlagged (flag : Value) : List Query → List Query
  | [] => []
  | q :: qs => flagged flag q :: allFlagged flag qs

end

variable {flag : Value} {q : Query}

theorem allFlagged_eq_map (qs : List Query) : allFlagged flag qs = qs.map (flagged flag) := by
  induction qs with
  | nil => rfl
  | cons q qs ih => rw [allFlagged, ih, List.map_cons]

theorem flagged_bool (b : Value) (s n m : List Query) :
    (Query.bool b s n m).flagged flag =
      .bool b (s.map (flagged flag)) (n.map (flagged flag)) (m.map (flagged flag)) := by
  simp only [flagged, allFlagged_eq_map]

/-- A boost and a flag are set independently of each other. -/
theorem flagged_under (x : Binary64) : (q.under x).flagged flag = (q.flagged flag).under x := by
  unfold under
  split
  · rfl
  · cases q with
    | foreign y => rfl
    | bool b s n m => rfl
    | leaf l => cases l <;> rfl

theorem flagged_joined (alone : Bool) (qs : List Query) :
    joined alone (qs.map (flagged flag)) = (joined alone qs).map (flagged flag) := by
  cases qs with
  | nil => rfl
  | cons q qs =>
    cases alone with
    | true => rfl
    | false => exact congrArg some (flagged_bool .null [] [] (q :: qs)).symm

end Query

/-- The outcome that there is no name for a field. -/
def FieldRefused {α : Type} (outcome : Except Failure α) : Prop := ∃ x, outcome = .error (.field x)

/-- Two outcomes that come to the same: results of which one is what a function makes of the other,
or the same failure, except that the fields that have no name may have been spelled otherwise. -/
inductive Corresponds {α β : Type} (f : α → β) : Except Failure β → Except Failure α → Prop where
  | ok (a : α) : Corresponds f (.ok (f a)) (.ok a)
  | field (x y : FieldFault) : Corresponds f (.error (.field x)) (.error (.field y))
  | failed (e : Failure) : Corresponds f (.error e) (.error e)

namespace Corresponds
variable {α β γ δ : Type} {f : α → β} {g : γ → δ} {m : Except Failure β} {k : Except Failure α}

theorem of_map (k : Except Failure α) : Corresponds f (k.map f) k := by
  cases k with
  | error e => exact .failed e
  | ok a => exact .ok a

theorem bind {h : β → Except Failure δ} {l : α → Except Failure γ} (first : Corresponds f m k)
    (next : ∀ a, k = .ok a → Corresponds g (h (f a)) (l a)) :
    Corresponds g (m >>= h) (k >>= l) := by
  cases first with
  | ok a => exact next a rfl
  | field x y => exact .field x y
  | failed e => exact .failed e

theorem map {h : β → δ} {l : α → γ} (first : Corresponds f m k) (same : ∀ a, h (f a) = g (l a)) :
    Corresponds g (m.map h) (k.map l) := by
  cases first with
  | ok a =>
    change Corresponds g (.ok (h (f a))) (.ok (l a))
    rw [same]
    exact .ok _
  | field x y => exact .field x y
  | failed e => exact .failed e

theorem fieldRefused_iff (same : Corresponds f m k) : FieldRefused m ↔ FieldRefused k := by
  cases same with
  | ok a => simp [FieldRefused]
  | field x y => simp [FieldRefused]
  | failed e => simp [FieldRefused]

theorem eq_error_or_ok (same : Corresponds f m k) (other : ¬ FieldRefused m) :
    (∃ e, m = .error e ∧ k = .error e) ∨ ∃ a, k = .ok a ∧ m = .ok (f a) := by
  cases same with
  | ok a => exact .inr ⟨a, rfl, rfl⟩
  | field x y => exact absurd ⟨x, rfl⟩ other
  | failed e => exact .inl ⟨e, rfl, rfl⟩

end Corresponds

namespace Clauses

def flagged (flag : Value) (cs : Clauses) : Clauses where
  should := cs.should.map (Query.flagged flag)
  mustNot := cs.mustNot.map (Query.flagged flag)
  must := cs.must.map (Query.flagged flag)

variable {flag : Value} {cs : Clauses}

theorem flagged_cons (slot : Slot) (q : Query) :
    (cs.cons slot q).flagged flag = (cs.flagged flag).cons slot (q.flagged flag) := by
  cases slot <;> rfl

theorem isEmpty_flagged : (cs.flagged flag).isEmpty = cs.isEmpty := by
  simp [isEmpty, flagged]

theorem toQuery_flagged : (cs.flagged flag).toQuery = cs.toQuery.flagged flag := by
  rw [toQuery_eq, toQuery_eq, Query.flagged_bool]
  rfl

end Clauses

namespace Compiler
variable {c : Compiler} {op : Operation} {v : Value} {field : String} {n node : Criterion}
  {chain : Chain} {R : String → String}

/-- The compiler under no configuration and without a resolver. -/
def plain : Compiler := ofConfig .default

theorem regular_plain : plain.Regular := regular_ofConfig Config.valid_default

section Queries
variable {flag : Bool} (set : c.config.analyzeWildcard = .bool flag)
include set

theorem wildcard?_flagged (term : String) :
    c.wildcard? (.text field) term =
      (plain.wildcard? (.text field) term).map (Query.flagged (.bool flag)) := by
  rw [wildcard?, set]
  rfl

/-- The query of an operation is the same under any configuration, except for its flag. -/
theorem standard?_flagged : c.standard? op v (.text field) =
    (plain.standard? op v (.text field)).map (Query.flagged (.bool flag)) := by
  cases op with
  | equals => rfl
  | contains | startsWith | endsWith =>
    rw [standard?, standard?, map_bind_comp]
    exact bind_congr fun s => wildcard?_flagged set _
  | expression | fuzzy =>
    rw [standard?, standard?, map_bind_comp]
    exact bind_congr fun s => rfl
  | between =>
    rw [standard?, standard?, map_bind_comp]
    refine bind_congr fun lower => ?_
    rw [map_bind_comp]
    exact bind_congr fun upper => rfl
  | oneOf =>
    rw [standard?, standard?, map_bind_comp]
    refine bind_congr fun items => ?_
    have each : (items.mapM fun item => fieldQuery? (.text field) item []) = .ok _ :=
      mapM_eq_ok_of_forall fun item _ => fieldQuery?_text
    simp only [each, ok_bind, pure, Except.pure, Except.map, Query.flagged_bool, List.map_map]
    rfl

theorem entry?_flagged (standard : c.style = .standard) :
    c.entry? op v (.text field) =
      (plain.entry? op v (.text field)).map (Option.map (Query.flagged (.bool flag))) := by
  cases null : v.isNull with
  | true =>
    rw [ entry?_of_isNull null, entry?_of_isNull null]
    rfl
  | false =>
    have style : plain.style = .standard := rfl
    simp only [ entry?, null, standard, style, Bool.false_eq_true, if_false,
      standard?_flagged set]
    cases plain.standard? op v (.text field) <;> rfl

theorem leaves?_flagged (standard : c.style = .standard) (es : List Entry) :
    c.leaves? (.text field) es =
      (plain.leaves? (.text field) es).map (List.map (Query.flagged (.bool flag))) := by
  induction es with
  | nil => rfl
  | cons e es ih =>
    rw [leaves?, leaves?, ih, entry?_flagged set standard]
    cases plain.entry? e.operation e.value (.text field) with
    | error f => rfl
    | ok r =>
      cases plain.leaves? (.text field) es with
      | error f => rfl
      | ok rest => cases r <;> rfl

end Queries

/-- What a resolver makes of names, and no resolver makes nothing else of them. -/
def ResolvesBy (c : Compiler) (R : String → String) : Prop :=
  match c.resolver with
  | none => R = id
  | some r => ∀ s, r.apply? (.text s) = .ok (.text (R s))

/-- The name of the document field for a property: what the resolver makes of its alias. -/
def fieldName (c : Compiler) (R : String → String) (s : String) : String := R (c.aliased s)

section Fields
variable (resolves : c.ResolvesBy R)
include resolves

theorem resolvesTo_fieldName (s : String) : c.ResolvesTo s (c.fieldName R s) := by
  unfold ResolvesBy at resolves
  unfold ResolvesTo fieldName
  cases resolver : c.resolver with
  | none =>
    rw [resolver] at resolves
    rw [resolves]
    rfl
  | some r =>
    rw [resolver] at resolves
    exact resolves _

theorem regular_of_resolvesBy (standard : c.style = .standard) (valid : c.config.Valid) :
    c.Regular where
  style := standard
  config := valid
  resolver r given s := by
    unfold ResolvesBy at resolves
    rw [Option.mem_def.mp given] at resolves
    exact ⟨_, resolves s⟩

/-- A field that is renamed beforehand resolves to what it would have resolved to, and to none
exactly when it would have. -/
theorem resolveField?_renamed (regular : c.Regular) {v : Value} (named : v.IsProperty) :
    Corresponds id (c.resolveField? v) (plain.resolveField? (v.renamed (c.fieldName R))) := by
  obtain rfl | ⟨s, rfl⟩ := named
  · exact .failed _
  · -- The new name meets no alias and no resolver any more, so that both fields come to one name.
    have renamed : plain.ResolvesTo (c.fieldName R s) (c.fieldName R s) := rfl
    change Corresponds id _ (plain.resolveField? (.text (c.fieldName R s)))
    rw [resolveField?_text regular (resolvesTo_fieldName resolves s),
      resolveField?_text regular_plain renamed]
    split
    · exact .field _ _
    · exact .ok _

theorem unboosted?_renamed {flag : Bool} (regular : c.Regular)
    (set : c.config.analyzeWildcard = .bool flag) (named : n.field.IsProperty) :
    Corresponds (Option.map (Query.flagged (.bool flag))) (c.unboosted? n)
      (plain.unboosted? (n.renamed (c.fieldName R))) := by
  by_cases said : n.entries = []
  · have silent : (n.renamed (c.fieldName R)).entries = [] := said
    simp only [unboosted?, said, silent]
    exact .ok none
  · have still : (n.renamed (c.fieldName R)).entries ≠ [] := said
    rw [unboosted?_eq said, unboosted?_eq still]
    refine (resolveField?_renamed resolves regular named).bind fun field resolved => ?_
    have property : (n.field.renamed (c.fieldName R)).IsProperty := by
      obtain null | ⟨s, text⟩ := named
      · exact .inl (by rw [null]; rfl)
      · exact .inr ⟨_, by rw [text]; rfl⟩
    obtain ⟨t, rfl⟩ := isText_of_resolveField? regular_plain property resolved
    change Corresponds _ (c.leaves? (.text t) n.entries >>= _) (plain.leaves? (.text t) n.entries >>= _)
    rw [leaves?_flagged set regular.style]
    refine (Corresponds.of_map _).bind fun qs _ => ?_
    rw [Query.flagged_joined]
    exact .ok _

theorem fragment_renamed {flag : Bool} (regular : c.Regular)
    (set : c.config.analyzeWildcard = .bool flag) (named : n.field.IsProperty) :
    Corresponds (Option.map (Query.flagged (.bool flag))) (c.fragment n).result
      (plain.fragment (n.renamed (c.fieldName R))).result := by
  rw [fragment_result, fragment_result]
  refine (unboosted?_renamed resolves regular set named).map fun r => ?_
  cases r with
  | none => rfl
  | some q => exact congrArg some (Query.flagged_under _).symm

theorem gather_renamed {flag : Bool} (regular : c.Regular)
    (set : c.config.analyzeWildcard = .bool flag) (named : ∀ n ∈ chain, n.field.IsProperty) :
    Corresponds (Clauses.flagged (.bool flag)) (c.gather chain).result
      (plain.gather (chain.renamed (c.fieldName R))).result := by
  induction chain with
  | nil => exact .ok Clauses.empty
  | cons n ns ih =>
    rw [List.forall_mem_cons] at named
    have rest := ih named.2
    rw [Chain.renamed, List.map_cons, gather_cons, gather_cons]
    refine (fragment_renamed resolves regular set named.1).bind fun r _ => ?_
    cases r with
    | none => exact rest
    | some q => exact rest.map fun cs => Clauses.flagged_cons n.slot q |>.symm

/-- Compiling under a configuration corresponds to compiling renamed criteria under none. -/
theorem compile_renamed {flag : Bool} (regular : c.Regular)
    (set : c.config.analyzeWildcard = .bool flag) (named : ∀ n ∈ chain, n.field.IsProperty) :
    Corresponds (Option.map (Query.flagged (.bool flag))) (c.compile node chain).result
      (plain.compile (node.renamed (c.fieldName R)) (chain.renamed (c.fieldName R))).result := by
  by_cases said : node.entries = []
  · have silent : (node.renamed (c.fieldName R)).entries = [] := said
    simp only [compile, clauses, said, silent]
    exact .ok none
  · have still : (node.renamed (c.fieldName R)).entries ≠ [] := said
    rw [compile_result said, compile_result still]
    refine (gather_renamed resolves regular set named).map fun cs => ?_
    rw [Clauses.isEmpty_flagged, Clauses.toQuery_flagged]
    split <;> rfl

end Fields

end Compiler

namespace Store

/-- A configuration and a resolver rename the fields and set the flag of terms with wildcards, and
do nothing else to what any node that calls have made is compiled into. A field is without a name
after both or before neither. What can go wrong beside that is that a value has no text. -/
theorem compile_factors (s : Store) (reached : Reachable s) (i : NodeId) (there : i < s.nodes.size)
    (named : ∀ n ∈ s.criteria i, n.field.IsProperty) (c : Compiler) (standard : c.style = .standard)
    (valid : c.config.Valid) (R : String → String) (resolves : c.ResolvesBy R) :
    let configured := (c.compile (s.node i).toCriterion (s.criteria i)).result
    let renamed := (Compiler.plain.compile ((s.node i).toCriterion.renamed (c.fieldName R))
      ((s.criteria i).renamed (c.fieldName R))).result
    (FieldRefused configured ↔ FieldRefused renamed) ∧ (¬ FieldRefused configured →
      (configured = .error .tooManyDigits ∧ renamed = .error .tooManyDigits ∧
        ∃ n ∈ s.criteria i, ∃ e ∈ n.entries, e.Unwritten) ∨
      ∃ r, renamed = .ok r ∧ configured = .ok (r.map (·.flagged c.config.analyzeWildcard))) := by
  intro configured renamed
  have regular : c.Regular := Compiler.regular_of_resolvesBy resolves standard valid
  obtain ⟨flag, set⟩ := valid.flag
  have same : Corresponds (Option.map (Query.flagged (.bool flag))) configured renamed :=
    Compiler.compile_renamed resolves regular set named
  refine ⟨same.fieldRefused_iff, fun other => ?_⟩
  rw [set]
  refine (same.eq_error_or_ok other).imp_left ?_
  rintro ⟨e, left, right⟩
  -- A chain is refused for nothing but a field without a name, which is excluded here, and a value
  -- that a query needs the text of.
  have accepted := (sound_of_reachable reached).accepted_criteria there
  obtain ⟨_, before, n, after, split, _, refuses⟩ :=
    (Compiler.compile_eq_error_iff regular accepted fun n member _ => named n member).mp left
  have member : n ∈ s.criteria i := by
    rw [split]
    exact List.mem_append_right _ List.mem_cons_self
  obtain ⟨_, ⟨_, rfl⟩ | ⟨_, _, _, rfl⟩ | ⟨_, _, _, _, _, ⟨x, inside, unwritten⟩, rfl⟩⟩ := refuses
  · exact absurd ⟨_, left⟩ other
  · exact absurd ⟨_, left⟩ other
  · exact ⟨left, right, n, member, x, inside, unwritten⟩

/-- A term with wildcards under an alias, a property without a name that says nothing, and a choice
beside another such term. -/
def aliasedStore : Store :=
  run empty [.create (.text "rate") false none, .constrain 0 (.contains (.text "low")),
    .andField 0 .null, .orField 0 (.text "type"),
    .constrain 2 (.oneOf (.list [.text "inn", .null])), .constrain 2 (.endsWith (.text "tel"))]

theorem compile_factors_sample :
    let config : Config := ⟨.bool false, [(.text "rate", .text "price")], some "DEBUG"⟩
    let c : Compiler := ⟨config, some (.prepend "doc."), .standard⟩
    let leaf (field : String) (v flag : Value) := Query.leaf (.field ⟨.null, field, v, flag⟩)
    Reachable aliasedStore ∧ 0 < aliasedStore.nodes.size ∧
      (∀ n ∈ aliasedStore.criteria 0, n.field.IsProperty) ∧ c.style = .standard ∧
      c.config.Valid ∧ c.ResolvesBy ("doc." ++ ·) ∧
      (c.compile (aliasedStore.node 0).toCriterion (aliasedStore.criteria 0)).result =
        .ok (some (.bool .null
          [.bool .null [] [] [.bool .null
              [leaf "doc.type" (.text "inn") .null, leaf "doc.type" .null .null] [] [],
            leaf "doc.type" (.text "*tel") (.bool false)]]
          [] [leaf "doc.price" (.text "*low*") (.bool false)])) := by
  intro config c leaf
  have reached : Reachable aliasedStore := reachable_run .empty (by decide)
  have there : 0 < aliasedStore.nodes.size := by decide
  have chain : (aliasedStore.criteria 0).map Criterion.field =
      [.text "rate", .null, .text "type"] := by decide
  have named : ∀ n ∈ aliasedStore.criteria 0, n.field.IsProperty := by
    rw [← List.forall_mem_map (f := Criterion.field) (P := Value.IsProperty), chain]
    simp [Value.IsProperty, Value.IsText]
  have valid : c.config.Valid := ⟨⟨false, rfl⟩, by simp [c, config, Value.IsText]⟩
  have resolves : c.ResolvesBy ("doc." ++ ·) := fun s => rfl
  have factored := compile_factors aliasedStore reached 0 there named c rfl valid _ resolves
  refine ⟨reached, there, named, rfl, valid, resolves, ?_⟩
  have sound : ¬ FieldRefused
      (c.compile (aliasedStore.node 0).toCriterion (aliasedStore.criteria 0)).result := by
    rw [factored.1]
    rintro ⟨x, absurd⟩
    cases absurd
  obtain ⟨absurd, _⟩ | ⟨r, plain, same⟩ := factored.2 sound
  · contradiction
  · rw [same]
    cases plain
    rfl

/-- A configuration does not give a text to an integer that is too long for one. -/
theorem compile_factors_fails_for_digits :
    let s := run empty [.create (.text "rate") false none,
      .constrain 0 (.contains (.int (10 ^ 4300)))]
    let c := Compiler.ofConfig ⟨.bool false, [(.text "rate", .text "price")], none⟩
    let configured := (c.compile (s.node 0).toCriterion (s.criteria 0)).result
    let renamed := (Compiler.plain.compile ((s.node 0).toCriterion.renamed (c.fieldName id))
      ((s.criteria 0).renamed (c.fieldName id))).result
    Reachable s ∧ (∀ n ∈ s.criteria 0, n.field.IsProperty) ∧ c.config.Valid ∧ c.ResolvesBy id ∧
      ¬ ((FieldRefused configured ↔ FieldRefused renamed) ∧ (¬ FieldRefused configured →
        ∃ r, renamed = .ok r ∧ configured = .ok (r.map (·.flagged (.bool false))))) := by
  intro s c configured renamed
  let n : Criterion := ⟨.text "rate", [⟨.contains, .int (10 ^ 4300)⟩], .plainNaN, false, false⟩
  have chain : s.criteria 0 = [n] := rfl
  have reached : Reachable s := reachable_run .empty (by decide)
  have named : ∀ n ∈ s.criteria 0, n.field.IsProperty := by
    rw [chain, List.forall_mem_singleton]
    exact .inr ⟨_, rfl⟩
  have valid : c.config.Valid := ⟨⟨false, rfl⟩, by simp [c, Compiler.ofConfig, Value.IsText]⟩
  refine ⟨reached, named, valid, rfl, ?_⟩
  have accepted := (sound_of_reachable reached).accepted_criteria (i := 0) (by decide)
  have long : (Value.int (10 ^ 4300)).isWritable = false := by decide +kernel
  have refuses : c.Refuses n .tooManyDigits := by
    refine ⟨List.cons_ne_nil _ _, .inr (.inr ⟨_, "price", rfl, rfl, by decide, ?_, rfl⟩)⟩
    exact ⟨_, List.mem_cons_self, rfl, long⟩
  have refused : configured = .error .tooManyDigits :=
    (Compiler.compile_eq_error_iff (Compiler.regular_ofConfig valid) accepted
      fun n member _ => named n member).mpr
        ⟨List.cons_ne_nil _ _, [], n, [], chain, by simp, refuses⟩
  rw [refused]
  rintro ⟨_, other⟩
  obtain ⟨r, _, absurd⟩ := other (by simp [FieldRefused])
  cases absurd

end Store
end SearchCriteria
