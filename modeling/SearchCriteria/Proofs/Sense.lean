import Mathlib.Data.List.Forall2
import Mathlib.Data.List.Nodup
import Mathlib.Data.List.Perm.Subperm
import SearchCriteria.Proofs.Rendered

/-! What the rendering of a query without clauses tells of it: everything but how the value of a
field query came to be its text, and whether a bound that is not there was to be included. This is
so in any sense in which maps that are the same have the same under their names. -/
namespace SearchCriteria

namespace Entries

/-- Entries under some of the names, in their order. -/
def Labelled (names : List String) (es : Entries) : Prop :=
  (es.map Prod.fst).Sublist (names.map Value.text)

variable {names others : List String} {es fs : Entries} {name : String} {v : Value}

theorem labelled_append (left : Labelled names es) (right : Labelled others fs) :
    Labelled (names ++ others) (es ++ fs) := by
  unfold Labelled
  rw [List.map_append, List.map_append]
  exact left.append right

theorem labelled_single : Labelled [name] [(.text name, v)] := List.Sublist.refl _

theorem labelled_argument? : Labelled [name] (argument? name v) := by
  cases v with
  | null => exact List.nil_sublist _
  | _ => exact labelled_single

theorem labelled_slot? {vs : List Value} : Labelled [name] (slot? name vs) := by
  cases vs with
  | nil => exact List.nil_sublist _
  | cons v vs => exact labelled_single

theorem Labelled.distinct (labelled : Labelled names es) (distinct : names.Nodup) :
    (es.map Prod.fst).Nodup := by
  have keys : (names.map Value.text).Nodup := distinct.map fun _ _ => Value.text.inj
  exact keys.sublist labelled

theorem Labelled.key (labelled : Labelled names es) {e : Value × Value} (member : e ∈ es) :
    ∃ s, e.1 = .text s := by
  obtain ⟨s, _, same⟩ := List.mem_map.mp (labelled.subset (List.mem_map_of_mem member))
  exact ⟨s, same.symm⟩

theorem mem_of_named?_text (found : named? name es = some v) : (.text name, v) ∈ es := by
  induction es with
  | nil => cases found
  | cons e es ih =>
    simp only [named?, find?] at found ih
    split at found
    · rename_i same
      rw [Value.alike_text_iff] at same
      rw [← same, ← Option.some.inj found]
      exact List.mem_cons_self
    · exact List.mem_cons_of_mem e (ih found)

theorem named?_of_mem (keys : (es.map Prod.fst).Nodup) (member : (.text name, v) ∈ es) :
    named? name es = some v := by
  induction es with
  | nil => cases member
  | cons e es ih =>
    rw [List.map_cons, List.nodup_cons] at keys
    simp only [named?, find?] at ih ⊢
    rcases List.mem_cons.mp member with rfl | later
    · rw [if_pos (Value.alike_text_iff.mpr rfl)]
    · have other : ¬ e.1.alike (.text name) = true := by
        rw [Value.alike_text_iff]
        intro same
        exact keys.1 (same ▸ List.mem_map_of_mem later)
      rw [if_neg other]
      exact ih keys.2 later

end Entries

namespace Value

theorem alikeEntries_iff {es fs : Entries} : alikeEntries es fs = true ↔
    ∀ e ∈ es, ∃ f ∈ fs, e.1.alike f.1 = true ∧ e.2.alike f.2 = true := by
  induction es with
  | nil => simp [alikeEntries]
  | cons e es ih => simp [alikeEntries, ih, List.any_eq_true]

theorem alikeItems_iff {vs ws : List Value} :
    alikeItems vs ws = true ↔ List.Forall₂ (fun v w => v.alike w = true) vs ws := by
  induction vs generalizing ws with
  | nil => cases ws <;> simp [alikeItems]
  | cons v vs ih => cases ws <;> simp [alikeItems, ih]

/-- Maps of equal content have something under the same names, and of equal content. -/
theorem alike_under {names others : List String} {es fs : Entries} (name : String)
    (distinct : names.Nodup) (apart : others.Nodup) (left : Entries.Labelled names es)
    (right : Entries.Labelled others fs) (same : (map es).alike (.map fs) = true) :
    Option.Rel (fun v w => v.alike w = true) (Entries.named? name es) (Entries.named? name fs) := by
  rw [alike, Bool.and_eq_true, beq_iff_eq, alikeEntries_iff] at same
  obtain ⟨lengths, each⟩ := same
  have keys := left.distinct distinct
  have others := right.distinct apart
  have found {n : String} {v : Value} (member : (.text n, v) ∈ es) :
      ∃ w, (.text n, w) ∈ fs ∧ v.alike w = true := by
    obtain ⟨⟨k, w⟩, there, key, value⟩ := each _ member
    obtain ⟨s, rfl⟩ := right.key there
    rw [alike_text_iff, text.injEq] at key
    exact ⟨w, key ▸ there, value⟩
  -- As the maps are of one length, the second has no more keys than the first.
  have covered : es.map Prod.fst ⊆ fs.map Prod.fst := by
    intro k member
    obtain ⟨⟨k, v⟩, there, rfl⟩ := List.mem_map.mp member
    obtain ⟨s, rfl⟩ := left.key there
    obtain ⟨w, here, _⟩ := found there
    exact List.mem_map.mpr ⟨_, here, rfl⟩
  have many : (fs.map Prod.fst).length = (es.map Prod.fst).length := by
    rw [List.length_map, List.length_map, lengths]
  have perm : (es.map Prod.fst).Perm (fs.map Prod.fst) :=
    (List.subperm_of_subset keys covered).perm_of_length_le (Nat.le_of_eq many)
  cases here : Entries.named? name es with
  | some v =>
    obtain ⟨w, there, value⟩ := found (Entries.mem_of_named?_text here)
    rw [Entries.named?_of_mem others there]
    exact .some value
  | none =>
    cases there : Entries.named? name fs with
    | none => exact .none
    | some w =>
      have key := List.mem_map_of_mem (f := Prod.fst) (Entries.mem_of_named?_text there)
      obtain ⟨⟨k, v⟩, member, rfl⟩ := List.mem_map.mp (perm.symm.subset key)
      rw [Entries.named?_of_mem keys member] at here
      cases here

/-- A sense in which values are the same: it tells null, texts and lists apart by their parts, and
maps by what they have under their names. -/
structure Sense (R : Value → Value → Prop) : Prop where
  null : R .null .null
  null_iff {v w : Value} : R v w → (v = .null ↔ w = .null)
  text {s t : String} : R (.text s) (.text t) ↔ s = t
  list {vs ws : List Value} : R (.list vs) (.list ws) ↔ List.Forall₂ R vs ws
  map {es fs : Entries} :
    List.Forall₂ (fun e f => (∃ s, e.1 = .text s) ∧ e.1 = f.1 ∧ R e.2 f.2) es fs →
      R (.map es) (.map fs)
  under {names others : List String} {es fs : Entries} (name : String) :
    names.Nodup → others.Nodup → Entries.Labelled names es → Entries.Labelled others fs →
      R (.map es) (.map fs) → Option.Rel R (Entries.named? name es) (Entries.named? name fs)

theorem sense_eq : Sense Eq where
  null := rfl
  null_iff same := by rw [same]
  text := by simp
  list := by simp
  map same := by
    have whole := same.imp fun e f each => Prod.ext each.2.1 each.2.2
    rw [List.forall₂_eq_eq_eq] at whole
    rw [whole]
  under name _ _ _ _ same := by
    rw [map.inj same]
    cases Entries.named? name _ with
    | none => exact .none
    | some v => exact .some rfl

theorem sense_alike : Sense fun v w => v.alike w = true where
  null := rfl
  null_iff {v w} same := by
    constructor
    · rintro rfl
      cases w <;> simp [alike] at same ⊢
    · rintro rfl
      cases v <;> simp [alike, equalInt, equalFloat, equalComplex] at same ⊢
  text := by simp
  list := by simp [alike, alikeItems_iff]
  map {es fs} same := by
    rw [alike, Bool.and_eq_true, beq_iff_eq, alikeEntries_iff]
    refine ⟨same.length_eq, fun e member => ?_⟩
    obtain ⟨i, bound, rfl⟩ := List.getElem_of_mem member
    obtain ⟨⟨s, text⟩, key, value⟩ := same.get bound (same.length_eq ▸ bound)
    refine ⟨_, List.getElem_mem (same.length_eq ▸ bound), ?_, value⟩
    simp only [List.get_eq_getElem] at text key
    rw [← key, text, alike_text, beq_self_eq_true]
  under := alike_under

end Value

namespace Leaf

/-- A leaf as far as its rendering tells: the value of a field query is its text, and a bound that
is not there counts as included. -/
def normal : Leaf → Leaf
  | .field q => .field { q with value := .text (searchText q.value) }
  | .range q => .range { q with
      includeLower := q.includeLower || q.lower.isNull
      includeUpper := q.includeUpper || q.upper.isNull }
  | q => q

/-- Leaves of one kind, each field of which is the same in both. -/
def Same (R : Value → Value → Prop) : Leaf → Leaf → Prop
  | .field p, .field q =>
    R p.boost q.boost ∧ p.field = q.field ∧ R p.value q.value ∧
      R p.analyzeWildcard q.analyzeWildcard
  | .text p, .text q => R p.boost q.boost ∧ p.query = q.query ∧ p.field = q.field
  | .range p, .range q =>
    R p.boost q.boost ∧ p.field = q.field ∧ R p.lower q.lower ∧ R p.upper q.upper ∧
      p.includeLower = q.includeLower ∧ p.includeUpper = q.includeUpper
  | .fuzzy p, .fuzzy q => R p.boost q.boost ∧ p.field = q.field ∧ p.value = q.value
  | .raw b, .raw c => R (.map b) (.map c)
  | _, _ => False

/-- The innermost arguments of a rendered leaf. -/
def arguments : Leaf → Entries
  | .field q =>
    [(.text "query", .text (searchText q.value)), (.text "default_field", .text q.field)]
      ++ argument? "analyze_wildcard" q.analyzeWildcard ++ argument? "boost" q.boost
  | .text q => [(.text "query", .text q.query)]
      ++ argument? "fields" (match q.field with
        | none => .null
        | some f => .list [.text f])
      ++ argument? "boost" q.boost
  | .range q => argument? (if q.includeLower then "gte" else "gt") q.lower
      ++ argument? (if q.includeUpper then "lte" else "lt") q.upper ++ argument? "boost" q.boost
  | .fuzzy q => [(.text "value", .text q.value)] ++ argument? "boost" q.boost
  | .raw body => body

/-- The field that stands around the arguments of a rendered leaf. -/
def field? : Leaf → Option String
  | .range q => some q.field
  | .fuzzy q => some q.field
  | _ => none

theorem labelled_arguments {q : Leaf} (typed : q.boostable = true) :
    ∃ names, names.Nodup ∧ Entries.Labelled names q.arguments := by
  cases q with
  | raw body => contradiction
  | field q =>
    refine ⟨["query", "default_field"] ++ ["analyze_wildcard"] ++ ["boost"], by decide, ?_⟩
    refine Entries.labelled_append (Entries.labelled_append ?_ Entries.labelled_argument?)
      Entries.labelled_argument?
    exact List.Sublist.refl _
  | text q =>
    refine ⟨["query"] ++ ["fields"] ++ ["boost"], by decide, ?_⟩
    exact Entries.labelled_append (Entries.labelled_append Entries.labelled_single
      Entries.labelled_argument?) Entries.labelled_argument?
  | range q =>
    refine ⟨[if q.includeLower then "gte" else "gt"] ++ [if q.includeUpper then "lte" else "lt"] ++
      ["boost"], by split <;> split <;> decide, ?_⟩
    exact Entries.labelled_append (Entries.labelled_append Entries.labelled_argument?
      Entries.labelled_argument?) Entries.labelled_argument?
  | fuzzy q =>
    refine ⟨["value"] ++ ["boost"], by decide, ?_⟩
    exact Entries.labelled_append Entries.labelled_single Entries.labelled_argument?

theorem boost_arguments {q : Leaf} (typed : q.boostable = true) :
    Entries.named? "boost" q.arguments = if q.boost = .null then none else some q.boost := by
  cases q with
  | raw body => contradiction
  | field q | text q | fuzzy q =>
    by_cases none : q.boost = .null <;> simp [arguments, boost, Entries.named?_append, none]
  | range q =>
    have lower : (if q.includeLower then "gte" else "gt") ≠ "boost" := by split <;> decide
    have upper : (if q.includeUpper then "lte" else "lt") ≠ "boost" := by split <;> decide
    by_cases none : q.boost = .null <;>
      simp [arguments, boost, Entries.named?_append, lower, upper, none]

/-- Under which name a bound stands tells whether it is included. -/
theorem bounds_arguments (q : RangeQuery) :
    let args := (Leaf.range q).arguments
    Entries.named? "gte" args =
        (if q.includeLower = true ∧ q.lower ≠ .null then some q.lower else none) ∧
      Entries.named? "gt" args =
        (if q.includeLower = false ∧ q.lower ≠ .null then some q.lower else none) ∧
      Entries.named? "lte" args =
        (if q.includeUpper = true ∧ q.upper ≠ .null then some q.upper else none) ∧
      Entries.named? "lt" args =
        (if q.includeUpper = false ∧ q.upper ≠ .null then some q.upper else none) := by
  cases lower : q.includeLower <;> cases upper : q.includeUpper <;>
    simp [arguments, Entries.named?_append, lower, upper]

end Leaf

namespace Value.Sense
variable {R : Value → Value → Prop} {k l : String} {v w a b : Value} {p q : Leaf} {i j : Bool}

theorem named_iff (sense : Sense R) : R (named k v) (named l w) ↔ k = l ∧ R v w := by
  constructor
  · intro same
    have found := sense.under k (List.nodup_singleton k) (List.nodup_singleton l)
      Entries.labelled_single Entries.labelled_single same
    by_cases key : l = k
    · subst key
      simpa using found
    · simp [key] at found
  · rintro ⟨rfl, same⟩
    exact sense.map (.cons ⟨⟨k, rfl⟩, rfl, same⟩ .nil)

/-- What is left out where it is null is the same where it is left out or the same. -/
theorem of_argument (sense : Sense R)
    (found : Option.Rel R (if a = .null then none else some a)
      (if b = .null then none else some b)) : R a b := by
  by_cases left : a = .null
  · by_cases right : b = .null
    · rw [left, right]
      exact sense.null
    · simp [left, right] at found
  · by_cases right : b = .null
    · simp [left, right] at found
    · simpa [left, right] using found

/-- A slot that is left out where it is empty has the same clauses in both, one by one. -/
theorem of_slot (sense : Sense R) {vs ws : List Value}
    (found : Option.Rel R (if vs = [] then none else some (.list vs))
      (if ws = [] then none else some (.list ws))) : List.Forall₂ R vs ws := by
  cases vs with
  | nil =>
    cases ws with
    | nil => exact .nil
    | cons w ws => simp at found
  | cons v vs =>
    cases ws with
    | nil => simp at found
    | cons w ws => simpa [sense.list] using found

theorem null_of_left (absent : Option.Rel R (if a = .null then none else some a) none) :
    a = .null := by
  by_contra present
  simp [present] at absent

theorem null_of_right (absent : Option.Rel R none (if b = .null then none else some b)) :
    b = .null := by
  by_contra present
  simp [present] at absent

/-- A bound stands under one of two names, and which of them it is tells whether it is included. -/
theorem of_bound (sense : Sense R)
    (closed : Option.Rel R (if i = true ∧ a ≠ .null then some a else none)
      (if j = true ∧ b ≠ .null then some b else none))
    (half : Option.Rel R (if i = false ∧ a ≠ .null then some a else none)
      (if j = false ∧ b ≠ .null then some b else none)) :
    R a b ∧ (i || a.isNull) = (j || b.isNull) := by
  cases i with
  | false =>
    cases j with
    | false =>
      have same : R a b := sense.of_argument (by simpa using half)
      refine ⟨same, Bool.eq_iff_iff.mpr ?_⟩
      simpa [Value.isNull_iff] using sense.null_iff same
    | true =>
      have left : a = .null := null_of_left (by simpa using half)
      have right : b = .null := null_of_right (by simpa using closed)
      rw [left, right]
      exact ⟨sense.null, rfl⟩
  | true =>
    cases j with
    | false =>
      have left : a = .null := null_of_left (by simpa using closed)
      have right : b = .null := null_of_right (by simpa using half)
      rw [left, right]
      exact ⟨sense.null, rfl⟩
    | true => exact ⟨sense.of_argument (by simpa using closed), rfl⟩

/-- What a query is scoped to, and whether it is, shows in the list of its fields. -/
theorem scope_iff (sense : Sense R) {f g : Option String} :
    R (match f with
        | none => .null
        | some f => .list [.text f])
      (match g with
        | none => .null
        | some g => .list [.text g]) ↔ f = g := by
  cases f with
  | none =>
    cases g with
    | none => exact ⟨fun _ => rfl, fun _ => sense.null⟩
    | some g => exact ⟨fun same => (nomatch (sense.null_iff same).mp rfl), nofun⟩
  | some f =>
    cases g with
    | none => exact ⟨fun same => (nomatch (sense.null_iff same).mpr rfl), nofun⟩
    | some g =>
      rw [sense.list, List.forall₂_cons, sense.text, Option.some.injEq]
      exact and_iff_left .nil

theorem arguments_under (sense : Sense R) (left : p.boostable = true) (right : q.boostable = true)
    (same : R (.map p.arguments) (.map q.arguments)) (name : String) :
    Option.Rel R (Entries.named? name p.arguments) (Entries.named? name q.arguments) := by
  obtain ⟨names, distinct, labelled⟩ := Leaf.labelled_arguments left
  obtain ⟨others, apart, known⟩ := Leaf.labelled_arguments right
  exact sense.under name distinct apart labelled known same

theorem isSome_arguments (sense : Sense R) (left : p.boostable = true)
    (right : q.boostable = true) (same : R (.map p.arguments) (.map q.arguments)) (name : String) :
    (Entries.named? name p.arguments).isSome = (Entries.named? name q.arguments).isSome := by
  have found := sense.arguments_under left right same name
  cases first : Entries.named? name p.arguments with
  | none => cases second : Entries.named? name q.arguments <;> simp [first, second] at found ⊢
  | some v => cases second : Entries.named? name q.arguments <;> simp [first, second] at found ⊢

/-- Renderings of one content are those of one kind of leaf, around arguments of one content. Two
kinds have their outer name in common, and only one of these has a default field. -/
theorem arguments_of_render (sense : Sense R) (left : p.boostable = true)
    (right : q.boostable = true) (same : R p.render q.render) :
    p.kind = q.kind ∧ p.field? = q.field? ∧ R (.map p.arguments) (.map q.arguments) := by
  cases p with
  | raw body => contradiction
  | field p =>
    cases q with
    | raw body => contradiction
    | field q => exact ⟨rfl, rfl, (sense.named_iff.mp same).2⟩
    | text q =>
      have shared :=
        sense.isSome_arguments left right (sense.named_iff.mp same).2 "default_field"
      simp [Leaf.arguments, Entries.named?_append] at shared
    | range q | fuzzy q => exact absurd (sense.named_iff.mp same).1 (by decide)
  | text p =>
    cases q with
    | raw body => contradiction
    | text q => exact ⟨rfl, rfl, (sense.named_iff.mp same).2⟩
    | field q =>
      have shared :=
        sense.isSome_arguments left right (sense.named_iff.mp same).2 "default_field"
      simp [Leaf.arguments, Entries.named?_append] at shared
    | range q | fuzzy q => exact absurd (sense.named_iff.mp same).1 (by decide)
  | range p =>
    cases q with
    | raw body => contradiction
    | range q =>
      obtain ⟨_, inner⟩ := sense.named_iff.mp same
      obtain ⟨field, inner⟩ := sense.named_iff.mp inner
      exact ⟨rfl, congrArg some field, inner⟩
    | field q | text q | fuzzy q => exact absurd (sense.named_iff.mp same).1 (by decide)
  | fuzzy p =>
    cases q with
    | raw body => contradiction
    | fuzzy q =>
      obtain ⟨_, inner⟩ := sense.named_iff.mp same
      obtain ⟨field, inner⟩ := sense.named_iff.mp inner
      exact ⟨rfl, congrArg some field, inner⟩
    | field q | text q | range q => exact absurd (sense.named_iff.mp same).1 (by decide)

theorem same_of_render (sense : Sense R) (left : p.boostable = true) (right : q.boostable = true)
    (same : R p.render q.render) : p.normal.Same R q.normal := by
  obtain ⟨kind, field, inner⟩ := sense.arguments_of_render left right same
  have look := sense.arguments_under left right inner
  have boost : R p.boost q.boost := by
    have found := look "boost"
    rw [Leaf.boost_arguments left, Leaf.boost_arguments right] at found
    exact sense.of_argument found
  cases p with
  | raw body => contradiction
  | field p =>
    cases q with
    | field q =>
      have query : searchText p.value = searchText q.value := by
        simpa [Leaf.arguments, sense.text] using look "query"
      have name : p.field = q.field := by
        simpa [Leaf.arguments, sense.text] using look "default_field"
      have flag : R p.analyzeWildcard q.analyzeWildcard := by
        apply sense.of_argument
        simpa [Leaf.arguments, Entries.named?_append] using look "analyze_wildcard"
      exact ⟨boost, name, sense.text.mpr query, flag⟩
    | raw body | text q | range q | fuzzy q => simp [Leaf.kind] at kind
  | text p =>
    cases q with
    | text q =>
      have query : p.query = q.query := by
        simpa [Leaf.arguments, sense.text] using look "query"
      refine ⟨boost, query, sense.scope_iff.mp (sense.of_argument ?_)⟩
      simpa [Leaf.arguments, Entries.named?_append] using look "fields"
    | raw body | field q | range q | fuzzy q => simp [Leaf.kind] at kind
  | range p =>
    cases q with
    | range q =>
      obtain ⟨gte, gt, lte, lt⟩ := Leaf.bounds_arguments p
      obtain ⟨gte', gt', lte', lt'⟩ := Leaf.bounds_arguments q
      have lower := sense.of_bound (gte ▸ gte' ▸ look "gte") (gt ▸ gt' ▸ look "gt")
      have upper := sense.of_bound (lte ▸ lte' ▸ look "lte") (lt ▸ lt' ▸ look "lt")
      exact ⟨boost, Option.some.inj field, lower.1, upper.1, lower.2, upper.2⟩
    | raw body | field q | text q | fuzzy q => simp [Leaf.kind] at kind
  | fuzzy p =>
    cases q with
    | fuzzy q =>
      have value : p.value = q.value := by
        simpa [Leaf.arguments, sense.text] using look "value"
      exact ⟨boost, Option.some.inj field, value⟩
    | raw body | field q | text q | range q => simp [Leaf.kind] at kind

section Positions

/-- Entries that have the same under the same names. -/
abbrev Matching (R : Value → Value → Prop) (es fs : Entries) : Prop :=
  List.Forall₂ (fun e f => (∃ s, e.1 = .text s) ∧ e.1 = f.1 ∧ R e.2 f.2) es fs

theorem matching_single (name : String) (same : R v w) :
    Matching R [(.text name, v)] [(.text name, w)] := .cons ⟨⟨name, rfl⟩, rfl, same⟩ .nil

theorem matching_argument (sense : Sense R) (name : String) (same : R v w) :
    Matching R (argument? name v) (argument? name w) := by
  by_cases none : v = .null
  · rw [none, (sense.null_iff same).mp none]
    exact .nil
  · have other : w ≠ .null := fun null => none ((sense.null_iff same).mpr null)
    cases v with
    | null => contradiction
    | _ =>
      cases w with
      | null => contradiction
      | _ => exact matching_single name same

theorem matching_bound (sense : Sense R) (closed half : String) (same : R v w)
    (included : (i || v.isNull) = (j || w.isNull)) :
    Matching R (argument? (if i then closed else half) v)
      (argument? (if j then closed else half) w) := by
  by_cases none : v = .null
  · rw [none, (sense.null_iff same).mp none]
    exact .nil
  · have other : ¬ w = .null := fun null => none ((sense.null_iff same).mpr null)
    rw [← Value.isNull_iff, Bool.not_eq_true] at none other
    rw [none, other, Bool.or_false, Bool.or_false] at included
    rw [included]
    exact sense.matching_argument _ same

theorem matching_slot (sense : Sense R) (name : String) {vs ws : List Value}
    (same : List.Forall₂ R vs ws) : Matching R (slot? name vs) (slot? name ws) := by
  cases same with
  | nil => exact .nil
  | cons first rest => exact matching_single name (sense.list.mpr (.cons first rest))

end Positions

theorem render_of_same (sense : Sense R) (left : p.boostable = true)
    (same : p.normal.Same R q.normal) : R p.render q.render := by
  cases p with
  | raw body => contradiction
  | field p =>
    cases q with
    | field q =>
      obtain ⟨boost, field, value, flag⟩ := same
      refine sense.named_iff.mpr ⟨rfl, sense.map ?_⟩
      refine List.rel_append (List.rel_append ?_ (sense.matching_argument _ flag))
        (sense.matching_argument _ boost)
      exact .cons ⟨⟨_, rfl⟩, rfl, value⟩ (.cons ⟨⟨_, rfl⟩, rfl, sense.text.mpr field⟩ .nil)
    | raw body | text q | range q | fuzzy q => exact same.elim
  | text p =>
    cases q with
    | text q =>
      obtain ⟨boost, query, field⟩ := same
      refine sense.named_iff.mpr ⟨rfl, sense.map ?_⟩
      refine List.rel_append (List.rel_append ?_ (sense.matching_argument _ ?_))
        (sense.matching_argument _ boost)
      · exact matching_single _ (sense.text.mpr query)
      · exact sense.scope_iff.mpr field
    | raw body | field q | range q | fuzzy q => exact same.elim
  | range p =>
    cases q with
    | range q =>
      obtain ⟨boost, field, lower, upper, closed, half⟩ := same
      refine sense.named_iff.mpr ⟨rfl, sense.named_iff.mpr ⟨field, sense.map ?_⟩⟩
      exact List.rel_append (List.rel_append (sense.matching_bound _ _ lower closed)
        (sense.matching_bound _ _ upper half)) (sense.matching_argument _ boost)
    | raw body | field q | text q | fuzzy q => exact same.elim
  | fuzzy p =>
    cases q with
    | fuzzy q =>
      obtain ⟨boost, field, value⟩ := same
      refine sense.named_iff.mpr ⟨rfl, sense.named_iff.mpr ⟨field, sense.map ?_⟩⟩
      exact List.rel_append (matching_single _ (sense.text.mpr value))
        (sense.matching_argument _ boost)
    | raw body | field q | text q | range q => exact same.elim

end Value.Sense

end SearchCriteria
