import SearchCriteria.Criteria.Constraint
import SearchCriteria.Proofs.Meaning
import SearchCriteria.Proofs.Refusals

/-! What a choice among values means. It is compiled into clauses that may match, and these have
force only where there is one at all: a choice among no values does not bar any document. -/
namespace SearchCriteria
variable {δ : Type}

/-- The query for a value in a field. -/
def Leaf.equalTo (field : String) (item : Value) : Leaf := .field ⟨.null, field, item, .null⟩

theorem Leaf.fresh_equalTo (field : String) (item : Value) : (equalTo field item).Fresh :=
  ⟨rfl, rfl⟩

theorem Leaf.render?_equalTo_eq_ok_iff {field : String} {item v : Value} :
    (Query.leaf (equalTo field item)).render? = .ok v ↔
      item.isWritable = true ∧ (equalTo field item).render = v :=
  Query.render?_leaf_eq_ok_iff

/-- The query for any of some values in a field. -/
def Query.choice (field : String) (items : List Value) : Query :=
  .bool .null (items.map fun item => .leaf (.equalTo field item)) [] []

theorem Query.renders_choice {field : String} {items : List Value} :
    (choice field items).Renders ↔ ∀ item ∈ items, item.isWritable = true := by
  rw [choice, renders_bool]
  simp [Renders, Leaf.render?_equalTo_eq_ok_iff]

namespace Engine

/-- The engine that goes by any predicate on leaves without a boost. -/
def ofLeaves (P : Value → δ → Prop) : Engine δ where
  clause v d := P v.withoutBoost d
  boost_blind d same := by rw [same]

theorem matches_ofLeaves {P : Value → δ → Prop} {d : δ} {l : Leaf} (fresh : l.Fresh) :
    (ofLeaves P).Matches d l.render ↔ P l.render d := by
  rw [matches_of_leaf (Leaf.boolBody?_render fresh.1)]
  change P l.render.withoutBoost d ↔ _
  rw [Leaf.withoutBoost_render fresh.1, Leaf.bare_of_boost_null fresh.2]

/-- The rule for a bool, told of a choice: with no other clauses in the bool, those for the items
have force, unless there is no item. -/
theorem satisfies_choice {E : Engine δ} {d : δ} {field : String} {items : List Value}
    (writable : ∀ item ∈ items, item.isWritable = true) :
    E.Satisfies d (.choice field items) ↔
      items = [] ∨ ∃ item ∈ items, E.Matches d (Leaf.equalTo field item).render := by
  obtain ⟨v, rendered⟩ : (Query.choice field items).Renders := Query.renders_choice.mpr writable
  have single : ∀ item ∈ items, (E.Satisfies d (.leaf (.equalTo field item)) ↔
      E.Matches d (Leaf.equalTo field item).render) := fun item member =>
    satisfies_of_render? (Leaf.render?_equalTo_eq_ok_iff.mpr ⟨writable item member, rfl⟩)
  have some : (∃ q ∈ items.map fun item => Query.leaf (.equalTo field item), E.Satisfies d q) ↔
      ∃ item ∈ items, E.Matches d (Leaf.equalTo field item).render := by
    simp only [List.mem_map, exists_exists_and_eq_and]
    exact exists_congr fun item => and_congr_right (single item)
  have rule := satisfies_bool (d := d) (E := E) rendered
  rw [some] at rule
  rw [Query.choice, rule]
  simp [imp_iff_not_or]

end Engine

namespace Compiler
variable {c : Compiler} {n : Criterion} {e : Entry} {field : String} {v : Value}

/-- An entry for a choice is compiled into the choice among the values that it was made of. -/
theorem entry?_of_choice (standard : c.style = .standard) (field : String)
    (made : Constraint.entry? (.oneOf v) = .ok e) : ∃ items, Constraint.choices v = .ok items ∧
      e.value ≠ .null ∧
      c.entry? e.operation e.value (.text field) = .ok (some (.choice field items)) := by
  obtain ⟨items, listed, rfl⟩ := map_eq_ok_iff.mp made
  have each : (items.mapM fun item => fieldQuery? (.text field) item []) =
      .ok (items.map fun item => .leaf (.equalTo field item)) :=
    mapM_eq_ok_of_forall fun item _ => fieldQuery?_text
  refine ⟨items, listed, nofun, ?_⟩
  simp only [ entry?, standard, Value.isNull, standard?, Value.items?, ok_bind, each]
  rfl

/-- What is true of the entries that ask for something is true of one of them and of the others. -/
theorem forall_entries_split {before after : List Entry} {Q : Entry → Prop}
    (entries : n.entries = before ++ e :: after) (present : e.value ≠ .null) :
    (∀ x ∈ n.entries, x.value ≠ .null → Q x) ↔
      Q e ∧ ∀ x ∈ before ++ after, x.value ≠ .null → Q x := by
  simp only [entries, List.forall_mem_append, List.forall_mem_cons, present, ne_eq,
    not_false_eq_true, true_implies]
  exact and_left_comm

theorem exists_rendered?_choice (resolved : c.resolveField? n.field = .ok (.text field))
    {items : List Value}
    (choice : c.entry? e.operation e.value (.text field) = .ok (some (.choice field items)))
    {Q : Value → Prop} : (∃ w, c.rendered? n e = .ok (some w) ∧ Q w) ↔
      ∃ w, (Query.choice field items).render? = .ok w ∧ Q w := by
  refine exists_congr fun w => and_congr_left fun _ => ?_
  rw [rendered?_eq_some_iff resolved, choice]
  simp

/-- The leaf of an entry that is no choice is what the engine looks at. -/
theorem matches_of_single {P : Value → δ → Prop} {d : δ} {w : Value}
    (standard : c.style = .standard) (single : e.operation ≠ .oneOf)
    (rendered : c.rendered? n e = .ok (some w)) : (Engine.ofLeaves P).Matches d w ↔ P w d := by
  obtain ⟨field, resolved, _⟩ := bind_eq_ok_iff.mp rendered
  obtain ⟨q, made, shown⟩ := (rendered?_eq_some_iff resolved).mp rendered
  obtain ⟨_, whole⟩ := standard?_of_entry? standard made
  obtain ⟨l, rfl, fresh⟩ := fresh_of_standard? single whole
  obtain ⟨_, rfl⟩ := Query.render?_leaf_eq_ok_iff.mp shown
  exact Engine.matches_ofLeaves fresh

/-- What a choice among values means, in a criterion of its own or next to other entries. The
engine goes by any predicate on leaves. A document matches the rendered fragment when it matches the
leaf of one of the values, or there is none, and all that the other entries ask for; an entry that
is no choice asks for one leaf. There is a fragment when the other entries have queries, and it is
rendered when the values can be written out and the other entries can be rendered. -/
theorem matches_choice (P : Value → δ → Prop) (c : Compiler) (standard : c.style = .standard)
    (v : Value) (e : Entry) (accepted : Constraint.entry? (.oneOf v) = .ok e)
    (n : Criterion) (before after : List Entry) (entries : n.entries = before ++ e :: after)
    (field : String) (resolved : c.resolveField? n.field = .ok (.text field)) :
    ∃ items, Constraint.choices v = .ok items ∧
      ((∃ f, (c.fragment n).result = .ok (some f)) ↔
        ∀ x ∈ before ++ after, ∃ r, c.entry? x.operation x.value (.text field) = .ok r) ∧
      (∀ f, (c.fragment n).result = .ok (some f) →
        ((∃ w, f.render? = .ok w) ↔ (∀ item ∈ items, item.isWritable = true) ∧
          ∀ x ∈ before ++ after, x.value ≠ .null → ∃ w, c.rendered? n x = .ok (some w)) ∧
        ∀ w, f.render? = .ok w → ∀ d, (Engine.ofLeaves P).Matches d w ↔
          (items = [] ∨ ∃ item ∈ items, P (Leaf.equalTo field item).render d) ∧
          ∀ x ∈ before ++ after, x.value ≠ .null →
            ∃ w, c.rendered? n x = .ok (some w) ∧ (Engine.ofLeaves P).Matches d w) ∧
      ∀ x ∈ before ++ after, x.operation ≠ .oneOf → ∀ w, c.rendered? n x = .ok (some w) →
        ∀ d, (Engine.ofLeaves P).Matches d w ↔ P w d := by
  obtain ⟨items, listed, present, choice⟩ := entry?_of_choice standard field accepted
  refine ⟨items, listed, ?_, fun f made => ?_, ?_⟩
  · have contributes : n.Contributes := ⟨e, by simp [entries], present⟩
    rw [exists_fragment_iff contributes resolved, entries]
    simp [or_imp, forall_and, choice]
  · have renders : (∃ w, f.render? = .ok w) ↔ (∀ item ∈ items, item.isWritable = true) ∧
        ∀ x ∈ before ++ after, x.value ≠ .null → ∃ w, c.rendered? n x = .ok (some w) := by
      have own := exists_rendered?_choice (Q := fun _ => True) resolved choice
      simp only [and_true] at own
      have all : f.Renders ↔ _ := renders_fragment made
      exact (all.trans (forall_entries_split entries present)).trans
        (and_congr_left fun _ => own.trans Query.renders_choice)
    refine ⟨renders, fun w rendered d => ?_⟩
    obtain ⟨writable, _⟩ := renders.mp ⟨w, rendered⟩
    have one : (∃ w, c.rendered? n e = .ok (some w) ∧ (Engine.ofLeaves P).Matches d w) ↔
        items = [] ∨ ∃ item ∈ items, P (Leaf.equalTo field item).render d := by
      have rule : (Engine.ofLeaves P).Satisfies d (.choice field items) ↔ _ :=
        Engine.satisfies_choice writable
      simp only [Engine.matches_ofLeaves (Leaf.fresh_equalTo field _)] at rule
      exact (exists_rendered?_choice resolved choice).trans rule
    rw [← Engine.satisfies_of_render? rendered, satisfies_fragment made ⟨w, rendered⟩,
      Engine.Holds, forall_entries_split entries present, one]
  · intro x _ single w rendered d
    exact matches_of_single standard single rendered

/-- A choice among two values, next to a value that is to be found. -/
def choosing : Criterion :=
  ⟨.text "type", [⟨.oneOf, .list [.text "hotel", .text "motel"]⟩, ⟨.equals, .text "inn"⟩],
    .plainNaN, false, false⟩

theorem matches_choice_sample :
    let c := Compiler.ofConfig .default
    let read := fun (w : Value) (d : List Value) => w ∈ d
    let found := [(Leaf.equalTo "type" (.text "motel")).render,
      (Leaf.equalTo "type" (.text "inn")).render]
    Constraint.entry? (.oneOf (.tuple [.text "hotel", .text "motel"])) =
        .ok ⟨.oneOf, .list [.text "hotel", .text "motel"]⟩ ∧
      c.resolveField? choosing.field = .ok (.text "type") ∧
      ∃ f w, (c.fragment choosing).result = .ok (some f) ∧ f.render? = .ok w ∧
        (Engine.ofLeaves read).Matches found w ∧ ¬ (Engine.ofLeaves read).Matches [] w := by
  intro c read found
  obtain ⟨items, listed, _, meaning, single⟩ := matches_choice read c rfl
    (.tuple [.text "hotel", .text "motel"]) _ rfl choosing [] [⟨.equals, .text "inn"⟩] rfl
    "type" rfl
  cases listed
  have other : c.rendered? choosing ⟨.equals, .text "inn"⟩ =
      .ok (some (Leaf.equalTo "type" (.text "inn")).render) := rfl
  refine ⟨rfl, rfl, _, _, rfl, rfl, ((meaning _ rfl).2 _ rfl found).mpr ⟨.inr ?_, ?_⟩, ?_⟩
  · exact ⟨.text "motel", by simp, List.mem_cons_self⟩
  · simp only [List.nil_append, List.forall_mem_singleton]
    refine fun _ => ⟨_, other, (single _ List.mem_cons_self nofun _ other found).mpr ?_⟩
    simp [read, found]
  · intro absurd
    have left := (((meaning _ rfl).2 _ rfl []).mp absurd).1
    simp [read] at left

/-- A choice among no values is accepted, and does not bar a document although no value is there
that it could match. -/
theorem empty_choice_matches :
    let c := Compiler.ofConfig .default
    let nothing := fun (_ : Value) (_ : Unit) => False
    let n : Criterion := ⟨.text "type", [⟨.oneOf, .list []⟩], .plainNaN, false, false⟩
    Constraint.entry? (.oneOf (.list [])) = .ok ⟨.oneOf, .list []⟩ ∧
      ∃ f w, (c.fragment n).result = .ok (some f) ∧ f.render? = .ok w ∧
        ¬ ((Engine.ofLeaves nothing).Matches () w ↔
          ∃ item ∈ ([] : List Value), nothing (Leaf.equalTo "type" item).render ()) := by
  intro c nothing n
  have shape : (named "bool" (.map [])).boolBody? = some [] := rfl
  have any : (Engine.ofLeaves nothing).Matches () (named "bool" (.map [])) := by
    rw [Engine.matches_of_body shape]
    simp [Value.clausesIn]
  exact ⟨rfl, _, _, rfl, rfl, fun claimed => by simpa using claimed.mp any⟩

end Compiler
end SearchCriteria
