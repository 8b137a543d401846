import Mathlib.Data.List.Forall2
import SearchCriteria.Proofs.Numerals
import SearchCriteria.Proofs.Parts

/-! What is written of a value is JSON where all its numbers are finite, and names a number in the
open where one is not. Keys are written as strings and are not among these numbers. -/
namespace SearchCriteria

def Binary64.isFinite : Binary64 → Bool
  | .finite _ _ => true
  | .nan _ | .infinite _ => false

/-- Whether all numbers in a value are finite, but for those in keys or in what is written as its
text. -/
def PartTest.finite : PartTest where
  key _ := true
  leaf
    | .float x => x.isFinite
    | _ => true
  key_text _ := rfl
  leaf_text _ := rfl
  leaf_bool _ := rfl
  leaf_null := rfl

abbrev Value.isFinite (v : Value) : Bool := PartTest.finite.passes v

namespace Json

section Strings

/-- What stands between the quotation marks of a string. -/
def IsStringBody (cs : List Char) : Prop :=
  ∃ parts : List (List Char), (∀ p ∈ parts, IsStringPart p) ∧ cs = parts.flatten

theorem IsStringPart.body {cs : List Char} (part : IsStringPart cs) : IsStringBody cs :=
  ⟨[cs], List.forall_mem_singleton.mpr part, (List.append_nil cs).symm⟩

theorem IsStringBody.append {cs ds : List Char} (first : IsStringBody cs)
    (second : IsStringBody ds) : IsStringBody (cs ++ ds) := by
  obtain ⟨parts, each, rfl⟩ := first
  obtain ⟨others, all, rfl⟩ := second
  exact ⟨parts ++ others, List.forall_mem_append.mpr ⟨each, all⟩, List.flatten_append.symm⟩

theorem isStringPart_unit {n : Nat} (bound : n < 0x10000) : IsStringPart (unitEscape n) := by
  refine .unit ?_ (isHexDigit_hexDigits 4 n)
  have digits : (Nat.toDigits 16 n).length ≤ 4 :=
    (Nat.length_toDigits_le_iff (by decide) (by decide)).mpr bound
  rw [hexDigits, List.length_leftpad]
  exact Nat.max_eq_left digits

theorem isStringBody_char (c : Char) : IsStringBody (stringChar c) := by
  unfold stringChar
  extract_lets n m
  have bound : n < 0x110000 := by
    have valid := c.valid
    change c.toNat.isValidChar at valid
    simp only [Nat.isValidChar] at valid
    omega
  split
  · rename_i marked
    simp only [Bool.or_eq_true, beq_iff_eq] at marked
    rcases marked with rfl | rfl <;> exact IsStringPart.body (.escape (by decide))
  · rename_i unmarked
    simp only [Bool.or_eq_true, beq_iff_eq, not_or] at unmarked
    iterate 5
      split
      · exact IsStringPart.body (.escape (by decide))
    split
    · rename_i shown
      simp only [Bool.and_eq_true, decide_eq_true_eq] at shown
      exact IsStringPart.body (.plain shown.1 unmarked.1 unmarked.2)
    · split
      · rename_i unit
        exact (isStringPart_unit unit).body
      · exact (isStringPart_unit (by omega)).body.append (isStringPart_unit (by omega)).body

theorem isString_string (s : String) : IsString (string s).toList := by
  have body (cs : List Char) : IsStringBody (cs.flatMap stringChar) := by
    induction cs with
    | nil => exact ⟨[], nofun, rfl⟩
    | cons c cs ih =>
      rw [List.flatMap_cons]
      exact (isStringBody_char c).append ih
  obtain ⟨parts, each, whole⟩ := body s.toList
  refine ⟨parts, each, ?_⟩
  rw [string, String.toList_ofList, whole, List.cons_append]

end Strings

/-- What is written of a value: a text that names a number in the open unless the value is finite,
and one of the right form where it is. -/
structure Written (form : List Char → Prop) (finite : Bool) (t : String) : Prop where
  exposes : Exposes t.toList (!finite)
  form : finite = true → form t.toList

theorem Written.of_form {form : List Char → Prop} {t : String}
    (exposes : form t.toList → Exposes t.toList false) (ok : form t.toList) : Written form true t :=
  ⟨exposes ok, fun _ => ok⟩

/-- A member without space around it. -/
def IsEntry (cs : List Char) : Prop :=
  ∃ name value, IsString name ∧ IsValue value ∧ cs = name ++ ':' :: ' ' :: value

namespace Style
variable {st : Style} {depth : Nat}

theorem isSpace_lineBreak (st : Style) (depth : Nat) : IsSpace (st.lineBreak depth).toList := by
  unfold lineBreak
  split
  · exact nofun
  · rw [String.toList_append]
    intro c member
    obtain newline | space := List.mem_append.mp member
    · rw [List.mem_singleton.mp newline]
      decide
    · rw [String.toList_ofList] at space
      rw [List.eq_of_mem_replicate space]
      decide

theorem separator_eq (st : Style) (depth : Nat) :
    ∃ gap, IsSpace gap ∧ (st.separator depth).toList = ',' :: gap := by
  unfold separator
  split
  · exact ⟨[' '], by decide, rfl⟩
  · exact ⟨_, st.isSpace_lineBreak depth, by rw [String.toList_append]; rfl⟩

section Bracket
variable {P Q : List Char → Prop} {gap before after : List Char} {items : List (List Char)}

/-- Items with space behind the commas are items with space around them. -/
theorem exists_padded (pad : ∀ l cs r, IsSpace l → P cs → IsSpace r → Q (l ++ (cs ++ r)))
    (space : IsSpace gap) (first : IsSpace before) (last : IsSpace after) (some : items ≠ [])
    (each : ∀ cs ∈ items, P cs) : ∃ padded : List (List Char), padded ≠ [] ∧
      (∀ cs ∈ padded, Q cs) ∧
      before ++ ((',' :: gap).intercalate items ++ after) = [','].intercalate padded := by
  induction items generalizing before with
  | nil => contradiction
  | cons cs items ih =>
    rw [List.forall_mem_cons] at each
    cases items with
    | nil =>
      refine ⟨[before ++ (cs ++ after)], List.cons_ne_nil _ _, ?_, by simp⟩
      exact List.forall_mem_singleton.mpr (pad _ _ _ first each.1 last)
    | cons ds items =>
      obtain ⟨padded, full, others, whole⟩ := ih space (List.cons_ne_nil _ _) each.2
      -- The space behind a comma is the space before the next item, so none is left behind this one.
      refine ⟨(before ++ (cs ++ [])) :: padded, List.cons_ne_nil _ _, ?_, ?_⟩
      · exact List.forall_mem_cons.mpr ⟨pad _ _ _ first each.1 nofun, others⟩
      · obtain ⟨p, ps, rfl⟩ := List.exists_cons_of_ne_nil full
        rw [List.intercalate_cons_cons, List.intercalate_cons_cons, ← whole]
        simp

theorem exposes_items {flags : List Bool} {texts : List String} (space : IsSpace gap)
    (each : List.Forall₂ (Written P) flags texts) :
    Exposes ((',' :: gap).intercalate (texts.map String.toList)) (!flags.all id) := by
  induction each with
  | nil => exact exposes_nil
  | @cons flag t flags texts first rest ih =>
    cases rest with
    | nil => simpa using first.exposes
    | @cons other u flags texts second rest =>
      rw [List.map_cons, List.map_cons, List.intercalate_cons_cons, List.append_assoc,
        List.all_cons, Bool.not_and]
      exact first.exposes.append (((exposes_space space).append ih).bare (by decide))

/-- Items in brackets are JSON if each of them is, and name a number in the open if one does. -/
theorem written_bracket {flags : List Bool} {texts : List String} {left right : String}
    {l r : Char} (opens : left.toList = [l]) (closes : right.toList = [r])
    (pad : ∀ l cs r, IsSpace l → P cs → IsSpace r → Q (l ++ (cs ++ r)))
    (empty : IsValue [l, r])
    (full : ∀ items : List (List Char), items ≠ [] → (∀ cs ∈ items, Q cs) →
      IsValue (l :: ([','].intercalate items ++ [r])))
    (bare : IsBare l ∧ IsBare r) (each : List.Forall₂ (Written P) flags texts) :
    Written IsValue (flags.all id) (st.bracket depth left right texts) := by
  unfold bracket
  cases each with
  | nil =>
    have text : (left ++ right).toList = [l, r] := by simp [opens, closes]
    constructor
    · rw [List.isEmpty_nil, if_pos rfl, text]
      exact (exposes_single bare.2).bare bare.1
    · intro _
      rw [List.isEmpty_nil, if_pos rfl, text]
      exact empty
  | @cons flag t flags texts first rest =>
    obtain ⟨gap, space, separates⟩ := st.separator_eq (depth + 1)
    have before := st.isSpace_lineBreak (depth + 1)
    have after := st.isSpace_lineBreak depth
    have text : (left ++ st.lineBreak (depth + 1) ++
        String.intercalate (st.separator (depth + 1)) (t :: texts) ++ st.lineBreak depth ++
        right).toList = l :: ((st.lineBreak (depth + 1)).toList ++
          ((',' :: gap).intercalate ((t :: texts).map String.toList) ++
            (st.lineBreak depth).toList) ++ [r]) := by
      simp [opens, closes, separates, String.toList_intercalate]
    have items := exposes_items space (.cons first rest)
    have each {flags : List Bool} {texts : List String}
        (each : List.Forall₂ (Written P) flags texts) (all : flags.all id = true) :
        ∀ cs ∈ texts.map String.toList, P cs := by
      induction each with
      | nil => exact nofun
      | cons first rest ih =>
        rw [List.all_cons, Bool.and_eq_true] at all
        exact List.forall_mem_cons.mpr ⟨first.form all.1, ih all.2⟩
    constructor
    · rw [List.isEmpty_cons, if_neg Bool.false_ne_true, text]
      have inner := (exposes_space before).append (items.append (exposes_space after))
      simpa using (inner.append (exposes_single bare.2)).bare bare.1
    · intro finite
      rw [List.isEmpty_cons, if_neg Bool.false_ne_true, text]
      obtain ⟨padded, some, all, whole⟩ := exists_padded pad space before after
        (List.cons_ne_nil _ _) (each (.cons first rest) finite)
      rw [List.map_cons, whole]
      exact full padded some all

end Bracket

theorem written_int {n : Int} {t : String} (written : writtenInt? n = .ok t) :
    Written IsValue true t := by
  unfold writtenInt? at written
  split at written
  · cases written
    exact .of_form (fun _ => exposes_number (isNumber_int n)) (.number (isNumber_int n))
  · cases written

theorem written_float (x : Binary64) : Written IsValue x.isFinite (numbers.text x) := by
  cases x with
  | nan p =>
    have name : Exposes "NaN".toList true := ⟨by decide, by decide⟩
    exact ⟨name, nofun⟩
  | infinite negative =>
    cases negative
    · exact ⟨⟨by decide, by decide⟩, nofun⟩
    · exact ⟨⟨by decide, by decide⟩, nofun⟩
  | finite negative rank =>
    have number := numbers.isNumber_text (by decide) negative rank
    exact .of_form (fun _ => exposes_number number) (.number number)

theorem written_string (s : String) : Written IsValue true (string s) :=
  .of_form (fun _ => exposes_string (isString_string s)) (.string (isString_string s))

theorem written_literal {w : String} (known : w ∈ literals) : Written IsValue true w :=
  .of_form (fun _ => exposes_literal known) (.literal known)

theorem written_foreign {v : Value} {t : String} (written : st.foreign? v = .ok t) :
    Written IsValue true t := by
  unfold foreign? at written
  split at written
  · obtain ⟨words, _, rfl⟩ := map_eq_ok_iff.mp written
    exact written_string words
  · cases written

theorem written_entry {name t : String} {finite : Bool} (value : Written IsValue finite t) :
    Written IsEntry finite (string name ++ ": " ++ t) := by
  have text : (string name ++ ": " ++ t).toList = (string name).toList ++ ':' :: ' ' :: t.toList := by
    simp
  have key := isString_string name
  constructor
  · rw [text]
    exact (exposes_string key).append ((value.exposes.bare (by decide)).bare (by decide))
  · intro whole
    exact ⟨_, _, key, value.form whole, text⟩

theorem isMember_padded (before cs after : List Char) (first : IsSpace before) (entry : IsEntry cs)
    (last : IsSpace after) : IsMember (before ++ (cs ++ after)) := by
  obtain ⟨name, value, key, held, rfl⟩ := entry
  have space : IsSpace [' '] := by decide
  have member := IsMember.mk first key isSpace_nil (.mk space held last)
  simpa using member

mutual

/-- What is written of a value, one case per kind of value. -/
theorem written_of_write? (st : Style) (depth : Nat) (v : Value) (t : String)
    (written : st.write? depth v = .ok t) : Written IsValue v.isFinite t := by
  cases v with
  | null =>
    cases written
    exact written_literal (by decide)
  | bool b =>
    cases written
    exact written_literal (by cases b <;> decide)
  | int n => exact written_int written
  | float x =>
    cases written
    exact written_float x
  | text s =>
    cases written
    exact written_string s
  | list xs | tuple xs =>
    obtain ⟨ts, items, rfl⟩ := map_eq_ok_iff.mp written
    have opens : "[".toList = ['['] := rfl
    have closes : "]".toList = [']'] := rfl
    rw [Value.isFinite, PartTest.passes, PartTest.passesAll_eq]
    exact written_bracket opens closes (fun _ _ _ => .mk) (.emptyArray isSpace_nil)
      (fun _ => .array) (by decide) (written_of_items st (depth + 1) xs ts items)
  | map es =>
    obtain ⟨ts, entries, rfl⟩ := map_eq_ok_iff.mp written
    have opens : "\x7b".toList = ['\x7b'] := rfl
    have closes : "\x7d".toList = ['\x7d'] := rfl
    rw [Value.isFinite, PartTest.passes, PartTest.passesEntries_eq]
    exact written_bracket opens closes isMember_padded (.emptyObject isSpace_nil)
      (fun _ => .object) (by decide) (written_of_entries st (depth + 1) es ts entries)
  | complex x y | set xs | bytes bs | date d | moment m | stream xs | object o =>
    exact written_foreign written

theorem written_of_items (st : Style) (depth : Nat) (xs : List Value) (ts : List String)
    (written : st.writeItems? depth xs = .ok ts) :
    List.Forall₂ (Written IsValue) (xs.map Value.isFinite) ts := by
  cases xs with
  | nil =>
    cases written
    exact .nil
  | cons x xs =>
    obtain ⟨t, first, rest⟩ := bind_eq_ok_iff.mp written
    obtain ⟨others, later, last⟩ := bind_eq_ok_iff.mp rest
    cases last
    exact .cons (written_of_write? st depth x t first) (written_of_items st depth xs others later)

theorem written_of_entries (st : Style) (depth : Nat) (es : List (Value × Value)) (ts : List String)
    (written : st.writeEntries? depth es = .ok ts) :
    List.Forall₂ (Written IsEntry) (es.map fun e => e.2.isFinite) ts := by
  cases es with
  | nil =>
    cases written
    exact .nil
  | cons e es =>
    obtain ⟨name, _, rest⟩ := bind_eq_ok_iff.mp written
    obtain ⟨t, value, rest⟩ := bind_eq_ok_iff.mp rest
    obtain ⟨others, later, last⟩ := bind_eq_ok_iff.mp rest
    cases last
    exact .cons (written_entry (written_of_write? st depth e.2 t value))
      (written_of_entries st depth es others later)

end

/-- What is written of a value is JSON exactly when its numbers are finite. -/
theorem isText_write?_iff {v : Value} {t : String} (written : st.write? depth v = .ok t) :
    IsText t.toList ↔ v.isFinite = true := by
  have value := written_of_write? st depth v t written
  constructor
  · intro text
    have named := (exposes_text text).named.symm.trans value.exposes.named
    simpa using named.symm
  · intro finite
    have element := IsElement.mk isSpace_nil (value.form finite) isSpace_nil
    simpa [IsText] using element

end Style
end Json
end SearchCriteria
