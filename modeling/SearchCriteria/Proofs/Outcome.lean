import Mathlib.Data.List.Forall2
import SearchCriteria.Log.Event

/-! Results that may be refusals: how they are taken apart, one by one and along a list. The
result of a traced computation does not depend on what it reports. What goes through all of its
input for faults, and stops at the first, is known by the list of all of them. -/
namespace SearchCriteria
variable {ε α β γ : Type}

@[simp] theorem ok_bind (a : α) (k : α → Except ε β) : (Except.ok a >>= k) = k a := rfl

@[simp] theorem error_bind (e : ε) (k : α → Except ε β) :
    (Except.error e >>= k) = .error e := rfl

theorem bind_ok_comp (m : Except ε α) (f : α → β) : (m >>= fun a => .ok (f a)) = m.map f := by
  cases m with
  | error e => rfl
  | ok a => rfl

theorem map_bind_comp (m : Except ε α) (k : α → Except ε β) (f : β → γ) :
    (m >>= k).map f = m >>= fun a => (k a).map f := by
  cases m with
  | error e => rfl
  | ok a => rfl

theorem bind_eq_ok_iff {m : Except ε α} {k : α → Except ε β} {b : β} :
    (m >>= k) = .ok b ↔ ∃ a, m = .ok a ∧ k a = .ok b := by
  cases m with
  | error e => simp [bind, Except.bind]
  | ok a => simp [bind, Except.bind]

theorem bind_eq_error_iff {m : Except ε α} {k : α → Except ε β} {e : ε} :
    (m >>= k) = .error e ↔ m = .error e ∨ ∃ a, m = .ok a ∧ k a = .error e := by
  cases m with
  | error d => simp [bind, Except.bind]
  | ok a => simp [bind, Except.bind]

theorem map_eq_error_iff {m : Except ε α} {f : α → β} {e : ε} :
    m.map f = .error e ↔ m = .error e := by
  cases m with
  | error d => simp [Except.map]
  | ok a => simp [Except.map]

theorem mapError_eq_error_iff {δ : Type} {m : Except δ α} {f : δ → ε} {e : ε} :
    m.mapError f = .error e ↔ ∃ d, m = .error d ∧ f d = e := by
  cases m with
  | error d => simp [Except.mapError]
  | ok a => simp [Except.mapError]

theorem map_eq_ok_iff {m : Except ε α} {f : α → β} {b : β} :
    m.map f = .ok b ↔ ∃ a, m = .ok a ∧ f a = b := by
  cases m with
  | error e => simp [Except.map]
  | ok a => simp [Except.map]

theorem exists_map_iff {m : Except ε α} {f : α → β} :
    (∃ b, m.map f = .ok b) ↔ ∃ a, m = .ok a := by
  cases m <;> simp [Except.map]

/-- Results that agree in one respect agree in all that depends on it. -/
theorem map_congr_of_map_eq {m k : Except ε α} {f : α → β} {g : α → γ} (same : m.map f = k.map f)
    (depends : ∀ a b, f a = f b → g a = g b) : m.map g = k.map g := by
  cases m with
  | error e =>
    cases k with
    | error d => exact congrArg Except.error (Except.error.inj same)
    | ok b => contradiction
  | ok a =>
    cases k with
    | error d => contradiction
    | ok b => exact congrArg Except.ok (depends a b (Except.ok.inj same))

theorem mapM_eq_ok_iff {f : α → Except ε β} {xs : List α} {ys : List β} :
    xs.mapM f = .ok ys ↔ List.Forall₂ (fun x y => f x = .ok y) xs ys := by
  induction xs generalizing ys with
  | nil =>
    rw [List.mapM_nil, List.forall₂_nil_left_iff]
    exact ⟨fun h => (Except.ok.inj h).symm, fun h => h ▸ rfl⟩
  | cons x xs ih =>
    rw [List.mapM_cons, List.forall₂_cons_left_iff, bind_eq_ok_iff]
    constructor
    · rintro ⟨y, first, h⟩
      obtain ⟨rest, others, last⟩ := bind_eq_ok_iff.mp h
      exact ⟨y, rest, first, ih.mp others, (Except.ok.inj last).symm⟩
    · rintro ⟨y, rest, first, others, rfl⟩
      exact ⟨y, first, bind_eq_ok_iff.mpr ⟨rest, ih.mpr others, rfl⟩⟩

theorem mapM_eq_ok_of_forall {f : α → Except ε β} {g : α → β} {xs : List α}
    (h : ∀ x ∈ xs, f x = .ok (g x)) : xs.mapM f = .ok (xs.map g) := by
  rw [mapM_eq_ok_iff, List.forall₂_map_right_iff, List.forall₂_same]
  exact h

theorem mem_of_mapM {f : α → Except ε β} {xs : List α} {ys : List β} (h : xs.mapM f = .ok ys)
    {y : β} : y ∈ ys ↔ ∃ x ∈ xs, f x = .ok y := by
  induction mapM_eq_ok_iff.mp h with
  | nil => simp
  | cons first rest ih =>
    rw [List.mem_cons, List.exists_mem_cons_iff, ih (mapM_eq_ok_iff.mpr rest), first]
    simp [eq_comm]

theorem exists_mapM_iff {f : α → Except ε β} {xs : List α} :
    (∃ ys, xs.mapM f = .ok ys) ↔ ∀ x ∈ xs, ∃ y, f x = .ok y := by
  induction xs with
  | nil => simp [pure, Except.pure]
  | cons x xs ih =>
    rw [List.forall_mem_cons, ← ih]
    constructor
    · rintro ⟨ys, h⟩
      obtain ⟨y, rest, first, others, _⟩ :=
        List.forall₂_cons_left_iff.mp (mapM_eq_ok_iff.mp h)
      exact ⟨⟨y, first⟩, rest, mapM_eq_ok_iff.mpr others⟩
    · rintro ⟨⟨y, first⟩, ys, others⟩
      exact ⟨y :: ys, mapM_eq_ok_iff.mpr (.cons first (mapM_eq_ok_iff.mp others))⟩

/-- What every step keeps is kept over a list. -/
theorem foldlM_preserves {P : β → Prop} {f : β → α → Except ε β} {xs : List α} {b d : β}
    (step : ∀ {b x d}, P b → f b x = .ok d → P d) (run : xs.foldlM f b = .ok d) (start : P b) :
    P d := by
  induction xs generalizing b with
  | nil =>
    cases run
    exact start
  | cons x xs ih =>
    rw [List.foldlM_cons] at run
    obtain ⟨next, first, rest⟩ := bind_eq_ok_iff.mp run
    exact ih rest (step start first)

section FlatMap

theorem flatMapM_append (f : α → Except ε (List β)) (xs ys : List α) :
    (xs ++ ys).flatMapM f = do return (← xs.flatMapM f) ++ (← ys.flatMapM f) := by
  induction xs with
  | nil =>
    rw [List.nil_append, List.flatMapM_nil]
    exact (bind_pure _).symm
  | cons x xs ih =>
    rw [List.cons_append, List.flatMapM_cons, List.flatMapM_cons, ih]
    simp only [bind_assoc, pure_bind, List.append_assoc]

theorem flatMapM_map_comp (f : α → Except ε β) (g : β → List γ) (xs : List α) :
    (xs.flatMapM fun x => (f x).map g) = (xs.mapM f).map (List.flatMap g) := by
  induction xs with
  | nil => rfl
  | cons x xs ih =>
    rw [List.flatMapM_cons, List.mapM_cons, ih]
    cases f x with
    | error e => rfl
    | ok y =>
      cases xs.mapM f with
      | error e => rfl
      | ok ys => rfl

/-- What is gone through are the values that are there. -/
theorem flatMapM_filterMap {value : α → Option β} {h : β → Except ε (List γ)}
    {k : α → Except ε (List γ)} {xs : List α}
    (absent : ∀ x ∈ xs, value x = none → k x = .ok [])
    (present : ∀ x ∈ xs, ∀ y, value x = some y → h y = k x) :
    (xs.filterMap value).flatMapM h = xs.flatMapM k := by
  induction xs with
  | nil => rfl
  | cons x xs ih =>
    rw [List.forall_mem_cons] at absent present
    have rest := ih absent.2 present.2
    cases made : value x with
    | none =>
      rw [List.filterMap_cons_none made, List.flatMapM_cons, absent.1 made, rest]
      exact (bind_pure _).symm
    | some y =>
      rw [List.filterMap_cons_some made, List.flatMapM_cons, List.flatMapM_cons,
        present.1 y made, rest]

theorem mem_of_flatMapM {f : α → Except ε (List β)} {xs : List α} {ys : List β}
    (made : xs.flatMapM f = .ok ys) {y : β} :
    y ∈ ys ↔ ∃ x ∈ xs, ∃ zs, f x = .ok zs ∧ y ∈ zs := by
  induction xs generalizing ys with
  | nil =>
    rw [List.flatMapM_nil] at made
    cases made
    simp
  | cons x xs ih =>
    rw [List.flatMapM_cons] at made
    obtain ⟨zs, first, rest⟩ := bind_eq_ok_iff.mp made
    obtain ⟨others, later, last⟩ := bind_eq_ok_iff.mp rest
    cases last
    simp [ih later, first]

theorem exists_of_flatMapM {f : α → Except ε (List β)} {xs : List α} {ys : List β}
    (made : xs.flatMapM f = .ok ys) : ∀ x ∈ xs, ∃ zs, f x = .ok zs := by
  induction xs generalizing ys with
  | nil => exact nofun
  | cons x xs ih =>
    rw [List.flatMapM_cons] at made
    obtain ⟨zs, first, rest⟩ := bind_eq_ok_iff.mp made
    obtain ⟨others, later, _⟩ := bind_eq_ok_iff.mp rest
    exact List.forall_mem_cons.mpr ⟨⟨zs, first⟩, ih later⟩

end FlatMap

/-- A result that stands only where nothing is wrong. Otherwise the first fault is the refusal. -/
def firstOf (faults : List ε) (a : α) : Except ε α :=
  match faults with
  | [] => .ok a
  | f :: _ => .error f

section FirstOf
variable {fs gs : List ε} {f : ε} {a b : α}

theorem firstOf_eq_ok_iff : firstOf fs a = .ok b ↔ fs = [] ∧ a = b := by
  cases fs with
  | nil => simp [firstOf]
  | cons f fs => simp [firstOf]

theorem firstOf_eq_error_iff : firstOf fs a = .error f ↔ fs.head? = some f := by
  cases fs with
  | nil => simp [firstOf]
  | cons g gs => simp [firstOf]

theorem firstOf_map (k : α → β) : (firstOf fs a).map k = firstOf fs (k a) := by
  cases fs with
  | nil => rfl
  | cons f fs => rfl

/-- What is wrong with a first step comes before what is wrong with a second one. -/
theorem firstOf_bind {k : α → Except ε β} {b : β} (next : k a = firstOf gs b) :
    (firstOf fs a >>= k) = firstOf (fs ++ gs) b := by
  cases fs with
  | nil => exact next
  | cons f fs => rfl

theorem foldlM_firstOf {step : β → α → Except ε β} {faults : α → List ε} {next : β → α → β}
    (each : ∀ b x, step b x = firstOf (faults x) (next b x)) (xs : List α) (b : β) :
    xs.foldlM step b = firstOf (xs.flatMap faults) (xs.foldl next b) := by
  induction xs generalizing b with
  | nil => rfl
  | cons x xs ih =>
    rw [List.foldlM_cons, List.flatMap_cons, List.foldl_cons, each]
    exact firstOf_bind (ih (next b x))

theorem mapM_firstOf {step : α → Except ε β} {faults : α → List ε} {made : α → β}
    (each : ∀ x, step x = firstOf (faults x) (made x)) (xs : List α) :
    xs.mapM step = firstOf (xs.flatMap faults) (xs.map made) := by
  induction xs with
  | nil => rfl
  | cons x xs ih =>
    rw [List.mapM_cons, List.flatMap_cons, List.map_cons, each, ih]
    exact firstOf_bind ((bind_ok_comp _ _).trans (firstOf_map _))

end FirstOf

namespace Traced

@[simp] theorem result_pure (a : α) : (pure a : Traced α).result = .ok a := rfl

@[simp] theorem result_ofExcept (r : Except Failure α) : (ofExcept r).result = r := rfl

@[simp] theorem result_debug (text : String) : (debug text).result = .ok () := rfl

@[simp] theorem result_debugAbout (v : Value) (text : String → String) :
    (debugAbout v text).result = .ok () := rfl

@[simp] theorem result_bind (t : Traced α) (f : α → Traced β) :
    (t >>= f).result = t.result >>= fun a => (f a).result := by
  change (andThen t f).result = _
  unfold andThen
  cases t.result with
  | error e => rfl
  | ok a => rfl

@[simp] theorem events_pure (a : α) : (pure a : Traced α).events = [] := rfl

@[simp] theorem events_debug (text : String) : (debug text).events = [⟨.debug, .ok text⟩] := rfl

theorem events_bind_ok {t : Traced α} {a : α} (made : t.result = .ok a) (f : α → Traced β) :
    (t >>= f).events = t.events ++ (f a).events := by
  change (andThen t f).events = _
  rw [andThen, made]

theorem events_bind_error {t : Traced α} {e : Failure} (refused : t.result = .error e)
    (f : α → Traced β) : (t >>= f).events = t.events := by
  change (andThen t f).events = _
  rw [andThen, refused]

@[simp] theorem events_bind_pure (t : Traced α) (f : α → β) :
    (t >>= fun a => pure (f a)).events = t.events := by
  cases made : t.result with
  | error e => exact events_bind_error made _
  | ok a => exact (events_bind_ok made _).trans (List.append_nil _)

end Traced
end SearchCriteria
