import SearchCriteria.Json.Writer
import SearchCriteria.Proofs.Parts
import SearchCriteria.Proofs.Written

/-! What keeps the rendering of a query from being written as JSON. Two things do: an integer with
too many digits, and a key that JSON has no form for. -/
namespace SearchCriteria

namespace Value

/-- Whether JSON has a form for a value as a key. -/
def isJsonKey : Value → Bool
  | .null | .bool _ | .int _ | .float _ | .text _ => true
  | _ => false

end Value

/-- Whether all keys in a value are such that JSON has a form for them. -/
def PartTest.keyed : PartTest where
  key := Value.isJsonKey
  leaf _ := true
  key_text _ := rfl
  leaf_text _ := rfl
  leaf_bool _ := rfl
  leaf_null := rfl

abbrev Value.isKeyed (v : Value) : Bool := PartTest.keyed.passes v

namespace Json.Style
variable {st : Style} {e : Failure}

/-- A refusal to write what is keyed or not. -/
def Unwritten (isKeyed : Bool) (e : Failure) : Prop :=
  e = .tooManyDigits ∨ (∃ kind, e = .kind (.badKey kind)) ∧ isKeyed = false

theorem unwritten_of_int {n : Int} {b : Bool} (refused : writtenInt? n = .error e) :
    Unwritten b e := by
  unfold writtenInt? at refused
  split at refused
  · cases refused
  · exact .inl (Except.error.inj refused).symm

theorem unwritten_of_key? {k : Value} (refused : st.key? k = .error e) :
    Unwritten k.isJsonKey e := by
  cases k with
  | null | bool b | float x | text s => contradiction
  | int n => exact unwritten_of_int refused
  | _ => exact .inr ⟨⟨_, (Except.error.inj refused).symm⟩, rfl⟩

theorem Unwritten.mono {part whole : Bool} (unwritten : Unwritten part e)
    (inside : whole = true → part = true) : Unwritten whole e := by
  obtain digits | ⟨key, odd⟩ := unwritten
  · exact .inl digits
  · refine .inr ⟨key, ?_⟩
    rw [Bool.eq_false_iff] at odd ⊢
    exact fun keyed => odd (inside keyed)

mutual

/-- What JSON lacks is written as its text, so that only keys and digits are left to refuse. -/
theorem unwritten_of_write? (asText : st.asText = true) (depth : Nat) (v : Value)
    (refused : st.write? depth v = .error e) : Unwritten v.isKeyed e := by
  cases v with
  | null | bool b | float x | text s => contradiction
  | int n => exact unwritten_of_int refused
  | list xs | tuple xs => exact unwritten_of_items asText _ xs (map_eq_error_iff.mp refused)
  | map es => exact unwritten_of_entries asText _ es (map_eq_error_iff.mp refused)
  | _ =>
    simp only [write?, foreign?, asText, if_true] at refused
    exact .inl (Value.written?_eq_error_iff.mp (map_eq_error_iff.mp refused)).2

theorem unwritten_of_items (asText : st.asText = true) (depth : Nat) (xs : List Value)
    (refused : st.writeItems? depth xs = .error e) : Unwritten (PartTest.keyed.passesAll xs) e := by
  cases xs with
  | nil => contradiction
  | cons x xs =>
    simp only [PartTest.passesAll]
    obtain first | ⟨_, _, rest⟩ := bind_eq_error_iff.mp refused
    · exact (unwritten_of_write? asText depth x first).mono fun both =>
        (Bool.and_eq_true_iff.mp both).1
    · obtain others | ⟨_, _, absurd⟩ := bind_eq_error_iff.mp rest
      · exact (unwritten_of_items asText depth xs others).mono fun both =>
          (Bool.and_eq_true_iff.mp both).2
      · contradiction

theorem unwritten_of_entries (asText : st.asText = true) (depth : Nat) (es : List (Value × Value))
    (refused : st.writeEntries? depth es = .error e) :
    Unwritten (PartTest.keyed.passesEntries es) e := by
  cases es with
  | nil => contradiction
  | cons entry es =>
    obtain ⟨k, v⟩ := entry
    have parts : PartTest.keyed.passesEntries ((k, v) :: es) = true → k.isJsonKey = true ∧
        v.isKeyed = true ∧ PartTest.keyed.passesEntries es = true := by
      simp only [PartTest.passesEntries, Bool.and_eq_true, and_assoc]
      exact id
    obtain key | ⟨_, _, rest⟩ := bind_eq_error_iff.mp refused
    · exact (unwritten_of_key? key).mono fun all => (parts all).1
    · obtain value | ⟨_, _, rest⟩ := bind_eq_error_iff.mp rest
      · exact (unwritten_of_write? asText depth v value).mono fun all => (parts all).2.1
      · obtain others | ⟨_, _, absurd⟩ := bind_eq_error_iff.mp rest
        · exact (unwritten_of_entries asText depth es others).mono fun all => (parts all).2.2
        · contradiction

end

end Json.Style

namespace Query
variable {e : Failure}

mutual

/-- A query that cannot be rendered has too many digits in it, or is none. -/
theorem reported_of_render? (q : Query) (refused : q.render? = .error e) :
    e = .tooManyDigits ∨ e.isReported = true := by
  cases q with
  | leaf l =>
    simp only [render?, Leaf.render?] at refused
    split at refused
    · contradiction
    · exact .inl (Except.error.inj refused).symm
  | foreign x =>
    refine .inr ?_
    simp only [render?, Foreign.render?] at refused
    split at refused
    · contradiction
    · rw [← Except.error.inj refused]
      rfl
  | bool b s n m =>
    obtain should | ⟨_, _, rest⟩ := bind_eq_error_iff.mp refused
    · exact reported_of_renderAll? s should
    · obtain mustNot | ⟨_, _, rest⟩ := bind_eq_error_iff.mp rest
      · exact reported_of_renderAll? n mustNot
      · obtain must | ⟨_, _, absurd⟩ := bind_eq_error_iff.mp rest
        · exact reported_of_renderAll? m must
        · contradiction

theorem reported_of_renderAll? (qs : List Query) (refused : renderAll? qs = .error e) :
    e = .tooManyDigits ∨ e.isReported = true := by
  cases qs with
  | nil => contradiction
  | cons q qs =>
    obtain first | ⟨_, _, rest⟩ := bind_eq_error_iff.mp refused
    · exact reported_of_render? q first
    · obtain others | ⟨_, _, absurd⟩ := bind_eq_error_iff.mp rest
      · exact reported_of_renderAll? qs others
      · contradiction

end

end Query
end SearchCriteria
