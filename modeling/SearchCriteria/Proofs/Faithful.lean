import SearchCriteria.Proofs.Sense

/-! What the rendering of a query tells of it: everything but how the value of a field query came to
be its text, and whether a bound that is not there was to be included. This is so for renderings
that are one and the same, and for those of equal content. -/
namespace SearchCriteria

/-- Lists are related as what is made of their members is. -/
theorem forall₂_iff_of_mapM {ε α β : Type} {f : α → Except ε β} {R : β → β → Prop}
    {S : α → α → Prop} {xs ys : List α} {us vs : List β} (left : xs.mapM f = .ok us)
    (right : ys.mapM f = .ok vs)
    (each : ∀ x ∈ xs, ∀ y ∈ ys, ∀ u v, f x = .ok u → f y = .ok v → (R u v ↔ S x y)) :
    List.Forall₂ R us vs ↔ List.Forall₂ S xs ys := by
  rw [mapM_eq_ok_iff] at left right
  induction left generalizing ys vs with
  | nil =>
    cases right with
    | nil => exact iff_of_true .nil .nil
    | cons first rest => exact iff_of_false nofun nofun
  | cons first rest ih =>
    cases right with
    | nil => exact iff_of_false nofun nofun
    | cons second others =>
      rw [List.forall₂_cons, List.forall₂_cons,
        each _ List.mem_cons_self _ List.mem_cons_self _ _ first second]
      refine and_congr_right fun _ => ih others fun x hx y hy => ?_
      exact each x (List.mem_cons_of_mem _ hx) y (List.mem_cons_of_mem _ hy)

namespace Leaf
variable {R : Value → Value → Prop} {p q : Leaf}

theorem same_eq_iff (p q : Leaf) : p.Same Eq q ↔ p = q := by
  cases p with
  | field p =>
    cases q with
    | field q =>
      cases p
      cases q
      simp [Same]
    | text | range | fuzzy | raw => exact iff_of_false id nofun
  | text p =>
    cases q with
    | text q =>
      cases p
      cases q
      simp [Same]
    | field | range | fuzzy | raw => exact iff_of_false id nofun
  | range p =>
    cases q with
    | range q =>
      cases p
      cases q
      simp [Same]
    | field | text | fuzzy | raw => exact iff_of_false id nofun
  | fuzzy p =>
    cases q with
    | fuzzy q =>
      cases p
      cases q
      simp [Same]
    | field | text | range | raw => exact iff_of_false id nofun
  | raw b =>
    cases q with
    | raw c => simp [Same]
    | field | text | range | fuzzy => exact iff_of_false id nofun

theorem kind_of_same (typed : p.boostable = true) (same : p.Same R q) :
    p.kind = q.kind ∧ R p.boost q.boost := by
  cases p with
  | raw => contradiction
  | field p | text p | range p | fuzzy p =>
    cases q with
    | field q | text q | range q | fuzzy q | raw b =>
      first | exact ⟨rfl, same.1⟩ | exact same.elim

end Leaf

namespace Query

mutual

/-- A query as far as its rendering tells. -/
def normal : Query → Query
  | .leaf q => .leaf q.normal
  | .foreign x => .foreign x
  | .bool boost should mustNot must =>
    .bool boost (allNormal should) (allNormal mustNot) (allNormal must)

def allNormal : List Query → List Query
  | [] => []
  | q :: qs => normal q :: allNormal qs

end

mutual

/-- Queries of one kind, each field of which is the same in both, slot by slot and clause by
clause. -/
def Same (R : Value → Value → Prop) : Query → Query → Prop
  | .leaf p, .leaf q => p.Same R q
  | .bool b s n m, .bool c t o k => R b c ∧ AllSame R s t ∧ AllSame R n o ∧ AllSame R m k
  | .foreign x, .foreign y => x = y
  | _, _ => False

def AllSame (R : Value → Value → Prop) : List Query → List Query → Prop
  | [], [] => True
  | p :: ps, q :: qs => Same R p q ∧ AllSame R ps qs
  | _, _ => False

end

/-- A query without anything foreign in it, all of whose leaves are of a kind. -/
inductive All (P : Leaf → Prop) : Query → Prop where
  | leaf {l : Leaf} : P l → All P (.leaf l)
  | bool {b : Value} {s n m : List Query} : (∀ q ∈ s, All P q) → (∀ q ∈ n, All P q) →
    (∀ q ∈ m, All P q) → All P (.bool b s n m)

section
variable {R : Value → Value → Prop} {p q : Query} {ps qs : List Query} {v w : Value}

theorem allNormal_eq_map (qs : List Query) : allNormal qs = qs.map normal := by
  induction qs with
  | nil => rfl
  | cons q qs ih => rw [allNormal, ih, List.map_cons]

theorem allSame_iff : AllSame R ps qs ↔ List.Forall₂ (Same R) ps qs := by
  induction ps generalizing qs with
  | nil => cases qs <;> simp [AllSame]
  | cons p ps ih => cases qs <;> simp [AllSame, ih]

/-- The bodies of queries with clauses have the same content just where their boosts have, and
their clauses, slot by slot. -/
theorem renderedBody_iff (sense : Value.Sense R) {b c : Value} {s t n o m k : List Value} :
    R (.map (renderedBody b s n m)) (.map (renderedBody c t o k)) ↔
      R b c ∧ List.Forall₂ R s t ∧ List.Forall₂ R n o ∧ List.Forall₂ R m k := by
  constructor
  · intro same
    have labelled (b : Value) (s n m : List Value) :
        Entries.Labelled (["should"] ++ ["must_not"] ++ ["must"] ++ ["boost"])
          (renderedBody b s n m) :=
      Entries.labelled_append (Entries.labelled_append (Entries.labelled_append
        Entries.labelled_slot? Entries.labelled_slot?) Entries.labelled_slot?)
        Entries.labelled_argument?
    have look (name : String) := sense.under name (by decide) (by decide) (labelled b s n m)
      (labelled c t o k) same
    refine ⟨sense.of_argument ?_, sense.of_slot ?_, sense.of_slot ?_, sense.of_slot ?_⟩
    · simpa [renderedBody, Entries.named?_append] using look "boost"
    · simpa [renderedBody, Entries.named?_append] using look "should"
    · simpa [renderedBody, Entries.named?_append] using look "must_not"
    · simpa [renderedBody, Entries.named?_append] using look "must"
  · rintro ⟨boost, should, mustNot, must⟩
    refine sense.map (List.rel_append (List.rel_append (List.rel_append ?_ ?_) ?_) ?_)
    · exact sense.matching_slot _ should
    · exact sense.matching_slot _ mustNot
    · exact sense.matching_slot _ must
    · exact sense.matching_argument _ boost

/-- A query with clauses is never rendered as one without. -/
theorem leaf_not_bool (sense : Value.Sense R) {l : Leaf} (typed : l.boostable = true)
    (body : Value) : ¬ R l.render (named "bool" body) ∧ ¬ R (named "bool" body) l.render := by
  cases l with
  | raw body => contradiction
  | field q | text q | range q | fuzzy q =>
    constructor
    · intro same
      exact absurd (sense.named_iff.mp same).1 (by decide)
    · intro same
      exact absurd (sense.named_iff.mp same).1 (by decide)

/-- The renderings of two queries are the same just where the queries are, as far as a rendering
tells. -/
theorem renderings_iff (sense : Value.Sense R) (left : p.All fun l => l.boostable = true)
    (right : q.All fun l => l.boostable = true) (first : p.render? = .ok v)
    (second : q.render? = .ok w) : R v w ↔ p.normal.Same R q.normal := by
  -- The induction is on what the first query is made of; its clauses are compared slot by slot.
  induction left generalizing q v w with
  | leaf typed =>
    obtain ⟨_, rfl⟩ := render?_leaf_eq_ok_iff.mp first
    cases right with
    | leaf also =>
      obtain ⟨_, rfl⟩ := render?_leaf_eq_ok_iff.mp second
      exact ⟨sense.same_of_render typed also, sense.render_of_same typed⟩
    | bool should mustNot must =>
      obtain ⟨_, _, _, _, _, _, rfl⟩ := render?_bool_eq_ok_iff.mp second
      exact iff_of_false (leaf_not_bool sense typed _).1 id
  | bool _ _ _ should mustNot must =>
    obtain ⟨vs, vn, vm, firstS, firstN, firstM, rfl⟩ := render?_bool_eq_ok_iff.mp first
    cases right with
    | leaf also =>
      obtain ⟨_, rfl⟩ := render?_leaf_eq_ok_iff.mp second
      exact iff_of_false (leaf_not_bool sense also _).2 id
    | bool typedS typedN typedM =>
      obtain ⟨ws, wn, wm, secondS, secondN, secondM, rfl⟩ := render?_bool_eq_ok_iff.mp second
      rw [sense.named_iff, renderedBody_iff sense, normal, normal, Same]
      simp only [allNormal_eq_map, allSame_iff, List.forall₂_map_left_iff,
        List.forall₂_map_right_iff, true_and]
      refine and_congr_right fun _ => and_congr ?_ (and_congr ?_ ?_)
      · exact forall₂_iff_of_mapM firstS secondS fun x hx y hy _ _ => should x hx (typedS y hy)
      · exact forall₂_iff_of_mapM firstN secondN fun x hx y hy _ _ => mustNot x hx (typedN y hy)
      · exact forall₂_iff_of_mapM firstM secondM fun x hx y hy _ _ => must x hx (typedM y hy)

/-- Queries all fields of which are the same one are one query. -/
theorem same_eq_iff (p q : Query) : p.Same Eq q ↔ p = q := by
  refine Query.rec (motive_1 := fun p => ∀ q, p.Same Eq q ↔ p = q)
    (motive_2 := fun ps => ∀ qs, AllSame Eq ps qs ↔ ps = qs) ?_ ?_ ?_ ?_ ?_ p q
  · intro l q
    cases q with
    | leaf k => rw [Same, l.same_eq_iff, leaf.injEq]
    | bool | foreign => exact iff_of_false id nofun
  · intro b s n m should mustNot must q
    cases q with
    | bool c t o k => rw [Same, should, mustNot, must, bool.injEq]
    | leaf | foreign => exact iff_of_false id nofun
  · intro x q
    cases q with
    | foreign y => rw [Same, foreign.injEq]
    | leaf | bool => exact iff_of_false id nofun
  · intro qs
    cases qs with
    | nil => exact iff_of_true trivial rfl
    | cons q qs => exact iff_of_false id nofun
  · intro p ps first rest qs
    cases qs with
    | nil => exact iff_of_false id nofun
    | cons q qs => rw [AllSame, first, rest, List.cons.injEq]

theorem kind_normal (p : Query) : p.normal.kind = p.kind := by
  cases p with
  | leaf l => cases l <;> rfl
  | bool | foreign => rfl

theorem boost_normal (p : Query) : p.normal.boost = p.boost := by
  cases p with
  | leaf l => cases l <;> rfl
  | bool | foreign => rfl

/-- What is the same is of one kind and has the same boost. -/
theorem kind_of_same (typed : p.All fun l => l.boostable = true) (same : p.Same R q) :
    p.kind = q.kind ∧ R p.boost q.boost := by
  cases typed with
  | leaf typed =>
    cases q with
    | leaf k => exact Leaf.kind_of_same typed same
    | bool | foreign => exact same.elim
  | bool =>
    cases q with
    | bool => exact ⟨rfl, same.1⟩
    | leaf | foreign => exact same.elim

theorem normal_boostable (typed : p.All fun l => l.boostable = true) :
    p.normal.All fun l => l.boostable = true := by
  induction typed with
  | @leaf l typed =>
    cases l with
    | raw => contradiction
    | field | text | range | fuzzy => exact .leaf rfl
  | bool _ _ _ should mustNot must =>
    rw [normal]
    simp only [allNormal_eq_map]
    refine .bool ?_ ?_ ?_
    · exact List.forall_mem_map.mpr should
    · exact List.forall_mem_map.mpr mustNot
    · exact List.forall_mem_map.mpr must

/-- A query is rendered unless the value of some field query in it cannot be written out. -/
theorem renders_iff (typed : p.All fun l => l.boostable = true) :
    p.Renders ↔ p.All fun l => l.isRenderable = true := by
  induction typed with
  | leaf typed =>
    constructor
    · rintro ⟨v, rendered⟩
      exact .leaf (render?_leaf_eq_ok_iff.mp rendered).1
    · rintro (written | _)
      exact ⟨_, render?_leaf_eq_ok_iff.mpr ⟨written, rfl⟩⟩
  | bool _ _ _ should mustNot must =>
    rw [renders_bool, forall₂_congr should, forall₂_congr mustNot, forall₂_congr must]
    constructor
    · rintro ⟨s, n, m⟩
      exact .bool s n m
    · rintro (_ | ⟨s, n, m⟩)
      exact ⟨s, n, m⟩

/-- Rendering loses nothing but the form of the value of a field query and the flag of a bound
that is not there, for typed queries of any depth. This is so whether renderings are compared as
they are or by content; two of equal content are of one kind, and both have a boost or neither. -/
theorem rendering_faithful (left : p.All fun l => l.boostable = true)
    (right : q.All fun l => l.boostable = true) :
    (p.Renders ↔ p.All fun l => l.isRenderable = true) ∧
      ∀ v w, p.render? = .ok v → q.render? = .ok w →
        (v = w ↔ p.normal = q.normal) ∧
        (v.alike w = true ↔ p.normal.Same (fun a b => a.alike b = true) q.normal) ∧
        (v.alike w = true → p.kind = q.kind ∧ (p.boost = .null ↔ q.boost = .null)) := by
  refine ⟨renders_iff left, fun v w first second => ⟨?_, ?_, ?_⟩⟩
  · rw [renderings_iff Value.sense_eq left right first second, same_eq_iff]
  · exact renderings_iff Value.sense_alike left right first second
  · intro same
    have parts := (renderings_iff Value.sense_alike left right first second).mp same
    obtain ⟨kind, boost⟩ := kind_of_same (normal_boostable left) parts
    rw [kind_normal, kind_normal] at kind
    rw [boost_normal, boost_normal] at boost
    exact ⟨kind, Value.sense_alike.null_iff boost⟩

/-- A number and the text of it, and an open side with either flag, are rendered alike. -/
theorem rendering_faithful_number :
    let clauses (v : Value) (closed : Bool) : Query := .bool (.int 0)
      [.leaf (.field ⟨.null, "a", v, .null⟩)] []
      [.leaf (.range ⟨.null, "b", .null, .int 2, closed, true⟩)]
    (clauses (.int 1) true).All (fun l => l.boostable = true) ∧
      (clauses (.text "1") false).All (fun l => l.boostable = true) ∧
      (clauses (.int 1) true).render? = (clauses (.text "1") false).render? ∧
      (clauses (.int 1) true).normal = (clauses (.text "1") false).normal := by
  intro clauses
  have all {P : Leaf → Prop} {v : Value} {closed : Bool} (value : P (.field ⟨.null, "a", v, .null⟩))
      (range : P (.range ⟨.null, "b", .null, .int 2, closed, true⟩)) : (clauses v closed).All P :=
    .bool (List.forall_mem_singleton.mpr (.leaf value)) nofun
      (List.forall_mem_singleton.mpr (.leaf range))
  have same : (clauses (.int 1) true).render? = (clauses (.text "1") false).render? := by
    decide +kernel
  have left : (clauses (.int 1) true).All fun l => l.boostable = true := all rfl rfl
  have right : (clauses (.text "1") false).All fun l => l.boostable = true := all rfl rfl
  obtain ⟨renders, faithful⟩ := rendering_faithful left right
  obtain ⟨v, first⟩ := renders.mpr (all (by decide +kernel) rfl)
  exact ⟨left, right, same, (faithful v v first (same ▸ first)).1.mp rfl⟩

end
end Query
end SearchCriteria
