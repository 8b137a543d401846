import SearchCriteria.Config
import SearchCriteria.Proofs.Fragment

/-! What the rules for a configuration leave: a flag, and aliases from names to names. The last
word of the environment on the level changes neither. -/
namespace SearchCriteria

namespace Checked
variable {α β : Type}

theorem seq_eq_ok_iff {f : Checked (α → β)} {a : Checked α} {b : β} :
    f <*> a = Checked.ok b ↔ ∃ g x, f = .ok g ∧ a = .ok x ∧ g x = b := by
  change Checked.seq f a = .ok b ↔ _
  cases f <;> cases a <;> simp [Checked.seq]

theorem within_eq_ok_iff {a : Checked α} {step : PathStep} {x : α} :
    a.within step = .ok x ↔ a = .ok x := by
  cases a <;> simp [Checked.within]

/-- What is true of the result of every part is true of all results. -/
theorem forall_of_all {P : α → Prop} {cs : List (Checked α)} {xs : List α}
    (made : Checked.all cs = .ok xs) (each : ∀ c ∈ cs, c.Gives P) : ∀ x ∈ xs, P x := by
  induction cs generalizing xs with
  | nil =>
    cases made
    simp
  | cons c cs ih =>
    rw [List.forall_mem_cons] at each
    obtain ⟨g, rest, first, others, rfl⟩ := seq_eq_ok_iff.mp made
    obtain ⟨x, head, rfl⟩ := map_eq_ok_iff.mp first
    rw [List.forall_mem_cons]
    exact ⟨each.1 x head, ih others each.2⟩

end Checked

namespace Entries
variable {P Q : Value → Prop} {es : Entries} {key value : Value}

theorem forall_insert (new : P key ∧ Q value) (old : ∀ e ∈ es, P e.1 ∧ Q e.2) :
    ∀ e ∈ insert key value es, P e.1 ∧ Q e.2 := by
  induction es with
  | nil => simpa [insert] using new
  | cons e es ih =>
    rw [List.forall_mem_cons] at old
    simp only [insert]
    split
    · rw [List.forall_mem_cons]
      exact ⟨⟨old.1.1, new.2⟩, old.2⟩
    · rw [List.forall_mem_cons]
      exact ⟨old.1, ih old.2⟩

/-- What is true of the keys, and of the values, that are listed is true of those of the map. -/
theorem forall_ofList {listed : List (Value × Value)} (all : ∀ e ∈ listed, P e.1 ∧ Q e.2) :
    ∀ e ∈ ofList listed, P e.1 ∧ Q e.2 := by
  have grown (acc : Entries) (old : ∀ e ∈ acc, P e.1 ∧ Q e.2) :
      ∀ e ∈ listed.foldl (fun acc e => insert e.1 e.2 acc) acc, P e.1 ∧ Q e.2 := by
    induction listed generalizing acc with
    | nil => exact old
    | cons e listed ih =>
      rw [List.forall_mem_cons] at all
      exact ih all.2 _ (forall_insert all.1 old)
  exact grown [] (by simp)

end Entries

def Value.IsText (v : Value) : Prop := ∃ s, v = .text s

/-- A configuration as its rules leave it. -/
structure Config.Valid (c : Config) : Prop where
  flag : ∃ b, c.analyzeWildcard = .bool b
  aliases : ∀ e ∈ c.fieldAliases, e.1.IsText ∧ e.2.IsText

namespace Config
variable {c d : Config} {v : Value} {env : Option String}

theorem valid_default : Valid default := ⟨⟨true, rfl⟩, by simp [default]⟩

theorem aliases_of_table {es : Entries}
    (made : Rule.table (fun v => (Rule.text v).map .text) v = .ok es) :
    ∀ e ∈ es, e.1.IsText ∧ e.2.IsText := by
  unfold Rule.table at made
  split at made
  · obtain ⟨listed, all, rfl⟩ := Checked.map_eq_ok_iff.mp made
    refine Entries.forall_ofList (P := Value.IsText) (Q := Value.IsText)
      (Checked.forall_of_all all ?_)
    intro checked member e entry
    obtain ⟨given, _, rfl⟩ := List.mem_map.mp member
    obtain ⟨g, _, key, value, rfl⟩ := Checked.seq_eq_ok_iff.mp entry
    obtain ⟨property, _, rfl⟩ := Checked.map_eq_ok_iff.mp key
    obtain ⟨name, _, rfl⟩ := Checked.map_eq_ok_iff.mp (Checked.within_eq_ok_iff.mp value)
    exact ⟨⟨property, rfl⟩, name, rfl⟩
  · contradiction

theorem valid_of_ofEntries {es : Entries} (made : ofEntries es = .ok c) : c.Valid := by
  obtain ⟨g, level, first, _, rfl⟩ := Checked.seq_eq_ok_iff.mp made
  obtain ⟨h, aliases, flagged, table, rfl⟩ := Checked.seq_eq_ok_iff.mp first
  obtain ⟨b, _, rfl⟩ := Checked.map_eq_ok_iff.mp flagged
  refine ⟨⟨b, rfl⟩, ?_⟩
  unfold Entries.withDefault at table
  split at table
  · exact aliases_of_table (Checked.within_eq_ok_iff.mp table)
  · cases table
    simp

/-- Every configuration that a value describes is one that keeps to the rules. -/
theorem valid_of_ofValue? (made : ofValue? v = .ok c) : c.Valid := by
  unfold ofValue? at made
  split at made
  · cases made
    exact valid_default
  · split at made
    · rename_i described
      cases made
      exact valid_of_ofEntries described
    · contradiction
  · contradiction

/-- What is said when the environment replaces a level by another one. -/
def overrides (env own : Option String) : List Event :=
  match nonempty? env, nonempty? own with
  | some level, some other =>
    if other = level then []
    else [⟨.warning, .ok ("Log level " ++ other ++ " overridden by " ++ levelVariable ++ "=" ++
      level)⟩]
  | _, _ => []

/-- A configuration with the level of the environment, where that has one. -/
def overridden (env : Option String) (c : Config) : Config :=
  { c with logLevel := (nonempty? env).or c.logLevel }

theorem underEnvironment_eq (env : Option String) (c : Config) :
    underEnvironment env c = ⟨overrides env c.logLevel, .ok (c.overridden env)⟩ := by
  unfold underEnvironment overrides overridden
  cases nonempty? env with
  | none => rfl
  | some level =>
    cases nonempty? c.logLevel with
    | none => rfl
    | some other =>
      by_cases same : other = level
      · subst same
        simp only [bne_self_eq_false, Bool.false_eq_true, if_true, if_false]
        rfl
      · have said : (other != level) = true := by simpa using same
        simp only [said, same, if_true, if_false]
        rfl

/-- The environment has no say but on the level. -/
theorem underEnvironment_result (env : Option String) (c : Config) :
    ∃ level, (underEnvironment env c).result = .ok { c with logLevel := level } := by
  rw [underEnvironment_eq]
  exact ⟨_, rfl⟩

theorem Valid.of_underEnvironment (valid : c.Valid)
    (made : (underEnvironment env c).result = .ok d) : d.Valid := by
  obtain ⟨level, result⟩ := underEnvironment_result env c
  rw [result] at made
  cases made
  exact ⟨valid.flag, valid.aliases⟩

theorem valid_of_parse (made : (parse env v).result = .ok c) : c.Valid := by
  rw [parse, Traced.result_bind] at made
  obtain ⟨d, described, rest⟩ := bind_eq_ok_iff.mp made
  exact (valid_of_ofValue? described).of_underEnvironment rest

end Config
end SearchCriteria
