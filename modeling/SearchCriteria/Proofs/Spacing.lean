import SearchCriteria.Criteria.Entry
import SearchCriteria.Proofs.Numerals
import SearchCriteria.Text.Blank
import SearchCriteria.Value.Printer

/-! White space in the texts of values. A text has what it has; every other value is written in a
form of its own, and the only white space in that is the space, which stands behind the commas and
colons of containers and between the parts of a time. -/
namespace SearchCriteria

section Characters
variable {c : Char}

theorem isBlank_of_visible (low : 0x20 < c.toNat) (high : c.toNat < 0x80) : isBlank c = false := by
  have apart : ∀ r ∈ blankRanges, r.2 ≤ 0x20 ∨ 0x80 ≤ r.1 := by decide
  refine List.any_eq_false.mpr fun r range => ?_
  have side := apart r range
  rw [Bool.and_eq_true, decide_eq_true_eq, decide_eq_true_eq]
  omega

theorem isBlank_of_isDigit (digit : c.isDigit = true) : isBlank c = false := by
  obtain ⟨low, high⟩ := Char.isDigit_iff_toNat.mp digit
  exact isBlank_of_visible (Nat.lt_of_lt_of_le (by decide) low) (Nat.lt_of_le_of_lt high (by decide))

theorem isBlank_of_isHexDigit (digit : Json.IsHexDigit c) : isBlank c = false := by
  have letters : ∀ c ∈ ['a', 'b', 'c', 'd', 'e', 'f', 'A', 'B', 'C', 'D', 'E', 'F'],
      isBlank c = false := List.all_iff_forall_prop.mp rfl
  exact digit.elim isBlank_of_isDigit (letters c)

theorem isBlank_of_mem_number {cs : List Char} (number : Json.IsNumber cs) :
    ∀ c ∈ cs, isBlank c = false := by
  have marks : ∀ c ∈ ['+', '-', '.', 'e', 'E'], isBlank c = false :=
    List.all_iff_forall_prop.mp rfl
  exact fun c member => (Json.mem_number number c member).elim isBlank_of_isDigit (marks c)

set_option maxRecDepth 1000 in
theorem changes_at_blank : ∀ r ∈ blankRanges, ∀ n ∈ List.range' r.1 (r.2 + 1 - r.1), 0x80 ≤ n →
    printabilityChanges.toList.foldl (fun on change => on != decide (change ≤ n)) false = false := by
  decide +kernel

/-- No white space but the space shows when it is printed. -/
theorem not_printable_of_isBlank (blank : isBlank c = true) (other : c ≠ ' ') :
    isPrintable c = false := by
  obtain ⟨r, range, inside⟩ := List.any_eq_true.mp blank
  simp only [Bool.and_eq_true, decide_eq_true_eq] at inside
  unfold isPrintable
  split
  · have code : c.toNat ≠ 0x20 := fun same => other (Char.toNat_inj.mp same)
    have apart : ∀ r ∈ blankRanges, r.2 ≤ 0x20 ∨ 0x80 ≤ r.1 := by decide
    have side := apart r range
    rw [Bool.and_eq_false_iff, decide_eq_false_iff_not]
    exact .inl (by omega)
  · rename_i beyond
    rw [← Array.foldl_toList]
    exact changes_at_blank r range c.toNat (List.mem_range'_1.mpr (by omega)) (by omega)

end Characters

theorem hasBlank_append (s t : String) : hasBlank (s ++ t) = (hasBlank s || hasBlank t) := by
  simp [hasBlank]

theorem hasBlank_ofList (cs : List Char) : hasBlank (String.ofList cs) = cs.any isBlank := by
  simp [hasBlank]

/-- Between two texts there is a space behind the comma. -/
theorem hasBlank_commas (t u : String) (rest : List String) :
    hasBlank (String.intercalate ", " (t :: u :: rest)) = true := by
  have comma : hasBlank ", " = true := by decide
  simp [String.intercalate_cons_cons, hasBlank_append, comma]

section Quoted
variable {mark : Char}

def IsMark (mark : Char) : Prop := mark = '\'' ∨ mark = '"'

theorem isMark_quotationMark (cs : List Char) : IsMark (quotationMark cs) := by
  unfold quotationMark
  split
  · exact .inr rfl
  · exact .inl rfl

theorem IsMark.not_blank (quotes : IsMark mark) : isBlank mark = false := by
  rcases quotes with rfl | rfl <;> decide

/-- An escape has no white space in it, and the space has no escape. -/
theorem any_commonEscape? {c : Char} {e : List Char} (quotes : IsMark mark)
    (escaped : commonEscape? mark c = some e) : e.any isBlank = false ∧ c ≠ ' ' := by
  unfold commonEscape? at escaped
  split at escaped
  · rename_i itself
    cases escaped
    rw [Bool.or_eq_true, beq_iff_eq, beq_iff_eq] at itself
    have dark : isBlank c = false := by
      obtain rfl | rfl := itself
      · exact quotes.not_blank
      · decide
    have backslash : isBlank '\\' = false := by decide
    refine ⟨by simp [backslash, dark], ?_⟩
    rintro rfl
    cases dark
  · repeat
      split at escaped
      · rename_i same
        cases escaped
        rw [beq_iff_eq] at same
        subst same
        decide
    cases escaped

theorem any_code {letter : Char} (known : letter ∈ ['x', 'u', 'U']) (width n : Nat) :
    ('\\' :: letter :: hexDigits width n).any isBlank = false := by
  have letters : ∀ c ∈ ['x', 'u', 'U'], isBlank c = false := List.all_iff_forall_prop.mp rfl
  have backslash : isBlank '\\' = false := by decide
  have digits : (hexDigits width n).any isBlank = false := List.any_eq_false.mpr fun c member => by
    simp [isBlank_of_isHexDigit (Json.isHexDigit_hexDigits width n c member)]
  simp only [List.any_cons, backslash, letters letter known, digits, Bool.or_self]

/-- A quoted character has white space in it where it is the space. -/
theorem any_quotedChar (quotes : IsMark mark) (c : Char) :
    (quotedChar mark c).any isBlank = (c == ' ') := by
  unfold quotedChar
  split
  · rename_i e escaped
    obtain ⟨dark, other⟩ := any_commonEscape? quotes escaped
    rw [dark, beq_eq_false_iff_ne.mpr other]
  · split
    · rename_i shown
      by_cases space : c = ' '
      · subst space
        decide
      · have dark : isBlank c = false := by
          by_contra blank
          rw [not_printable_of_isBlank (by simpa using blank) space] at shown
          cases shown
        simp [dark, space]
    · rename_i hidden
      have other : (c == ' ') = false := by
        rw [beq_eq_false_iff_ne]
        rintro rfl
        exact hidden (by decide)
      rw [other]
      split
      · exact any_code (by decide) _ _
      · split
        · exact any_code (by decide) _ _
        · exact any_code (by decide) _ _

theorem any_quotedByte (quotes : IsMark mark) (b : UInt8) :
    (quotedByte mark b).any isBlank = (b == 0x20) := by
  have space : Char.ofNat (UInt8.toNat 0x20) = ' ' := rfl
  unfold quotedByte
  extract_lets c
  split
  · rename_i e escaped
    obtain ⟨dark, other⟩ := any_commonEscape? quotes escaped
    rw [dark, eq_comm, beq_eq_false_iff_ne]
    rintro rfl
    exact other space
  · split
    · rename_i shown
      simp only [Bool.and_eq_true, decide_eq_true_eq] at shown
      by_cases same : b = 0x20
      · subst same
        decide
      · have code : c.toNat = b.toNat := by
          have valid : b.toNat.isValidChar := .inl (by omega)
          change (Char.ofNat b.toNat).toNat = b.toNat
          rw [Char.ofNat, dif_pos valid]
          rfl
        have dark : isBlank c = false := isBlank_of_visible (by
          have other : b.toNat ≠ 32 := fun code => same (UInt8.toNat_inj.mp code)
          omega) (by omega)
        simp [dark, same]
    · rename_i hidden
      have other : (b == 0x20) = false := by
        rw [beq_eq_false_iff_ne]
        rintro rfl
        exact hidden (by decide)
      rw [other]
      exact any_code (by decide) _ _

/-- In quotation marks there is white space where there is in what is quoted. -/
theorem any_quotation {α : Type} {f : α → List Char} {p : α → Bool} (quotes : IsMark mark)
    (each : ∀ a, (f a).any isBlank = p a) (items : List α) :
    (mark :: items.flatMap f ++ [mark]).any isBlank = items.any p := by
  simp only [List.any_append, List.any_cons, List.any_nil, quotes.not_blank, List.any_flatMap, each,
    Bool.false_or, Bool.or_false]

theorem hasBlank_quotedText (s : String) : hasBlank (quotedText s) = s.toList.any (· == ' ') := by
  have quotes := isMark_quotationMark s.toList
  exact (hasBlank_ofList _).trans (any_quotation quotes (any_quotedChar quotes) _)

theorem hasBlank_quotedBytes (bs : List UInt8) :
    hasBlank (quotedBytes bs) = bs.any (· == 0x20) := by
  have quotes := isMark_quotationMark (bs.map fun b => Char.ofNat b.toNat)
  have letter : isBlank 'b' = false := by decide
  refine (hasBlank_ofList _).trans ?_
  rw [List.cons_append, List.any_cons, letter, Bool.false_or]
  exact any_quotation quotes (any_quotedByte quotes) bs

end Quoted

theorem hasBlank_number {cs : String} (number : Json.IsNumber cs.toList) : hasBlank cs = false := by
  simpa [hasBlank] using isBlank_of_mem_number number

namespace Value

/-- Whether the quoted form of a value has white space in it. -/
def quotesBlank : Value → Bool
  | .null | .bool _ | .int _ | .float _ | .complex _ _ => false
  | .text s => s.toList.any (· == ' ')
  | .list [x] | .tuple [x] | .set [x] => quotesBlank x
  | .list xs | .tuple xs | .set xs => !xs.isEmpty
  | .map es => !es.isEmpty
  | .bytes bs => bs.any (· == 0x20)
  | .date _ | .moment _ | .stream _ => true
  | .object o => hasBlank o.quoted

/-- Whether the text of a value has white space in it. -/
def isSpaced : Value → Bool
  | .text s => hasBlank s
  | .date _ => false
  | .object o => hasBlank o.text
  | v => v.quotesBlank

theorem hasBlank_float (x : Binary64) : hasBlank (plainNumbers.text x) = false := by
  cases x with
  | nan p =>
    change hasBlank "nan" = false
    decide
  | infinite negative => cases negative <;> rfl
  | finite negative rank =>
    exact hasBlank_number (plainNumbers.isNumber_text (by decide) negative rank)

/-- Brackets add no white space to what they hold. -/
theorem hasBlank_bracketed {left right : String} (t : String) (start : hasBlank left = false)
    (stop : hasBlank right = false) : hasBlank (left ++ t ++ right) = hasBlank t := by
  rw [hasBlank_append, hasBlank_append, start, stop, Bool.false_or, Bool.or_false]

theorem hasBlank_part (x : Binary64) : hasBlank (partText x) = false := by
  have whole : ∀ c ∈ (plainNumbers.text x).toList.reverse, isBlank c = false := by
    simpa [hasBlank] using hasBlank_float x
  unfold partText
  split
  · rename_i cs split
    rw [split] at whole
    simpa [hasBlank] using fun c member => whole c (by simp [member])
  · simpa [hasBlank] using whole

theorem hasBlank_complex (x y : Binary64) : hasBlank (complexText x y) = false := by
  have letter : hasBlank "j" = false := by decide
  have plus : hasBlank "+" = false := by decide
  unfold complexText
  extract_lets imaginary
  have dark : hasBlank imaginary = false := by
    rw [hasBlank_append, hasBlank_part, letter, Bool.or_self]
  split
  · exact dark
  · rename_i sign other
    have light : hasBlank sign = false := by
      unfold sign
      split
      · rfl
      · exact plus
    rw [hasBlank_bracketed _ (by decide) (by decide), hasBlank_append, hasBlank_append,
      hasBlank_part, light, dark]
    rfl

section Calendar

theorem toString_text (s : String) : toString s = s := rfl

theorem hasBlank_padded (width n : Nat) : hasBlank (paddedNat width n) = false := by
  rw [paddedNat, hasBlank_ofList]
  have digits := (Json.areDigits_toDigits n).behind
    (@Json.isDigit_of_zeros (width - (Nat.toDigits 10 n).length))
  refine List.any_eq_false.mpr fun c member => ?_
  rw [isBlank_of_isDigit (digits.2 c member)]
  exact Bool.false_ne_true

theorem hasBlank_date (d : Date) : hasBlank d.text = false := by
  have dash : hasBlank "-" = false := by decide
  simp [Date.text, toString_text, hasBlank_append, hasBlank_padded, dash]

theorem hasBlank_moment (m : Moment) : hasBlank m.text = true := by
  have space : hasBlank " " = true := by decide
  simp [Moment.text, toString_text, hasBlank_append, space]

theorem hasBlank_quotedDate (d : Date) : hasBlank d.quoted = true := by
  have comma : hasBlank ", " = true := by decide
  unfold Date.quoted
  simp only [toString_text, hasBlank_append]
  rw [comma]
  simp only [Bool.or_true, Bool.true_or]

theorem hasBlank_quotedMoment (m : Moment) : hasBlank m.quoted = true := by
  unfold Moment.quoted
  extract_lets parts zone
  have several : hasBlank (String.intercalate ", " (parts.map toString)) = true := by
    simp only [parts, List.cons_append, List.map_cons]
    exact hasBlank_commas _ _ _
  simp [hasBlank_append, several]

end Calendar

/-- The quoted form of a value has white space in it as told. A container of one item is the only
one whose items decide. -/
theorem hasBlank_quoted : (v : Value) → hasBlank v.quoted = v.quotesBlank
  | .null => rfl
  | .bool true => rfl
  | .bool false => rfl
  | .int n => hasBlank_number (Json.isNumber_int n)
  | .float x => hasBlank_float x
  | .complex x y => hasBlank_complex x y
  | .text s => hasBlank_quotedText s
  | .bytes bs => hasBlank_quotedBytes bs
  | .object o => rfl
  | .stream items => by
    change hasBlank "<list_iterator object>" = true
    decide
  | .list [] => rfl
  | .tuple [] => rfl
  | .list [x] => by
    rw [quoted, quotedItems, quotedItems, hasBlank_bracketed _ rfl rfl,
      String.intercalate_singleton, hasBlank_quoted x, quotesBlank]
  | .tuple [x] => by
    rw [quoted, hasBlank_bracketed _ rfl rfl, hasBlank_quoted x, quotesBlank]
  | .list (x :: y :: xs) => by
    rw [quoted, quotedItems, quotedItems, hasBlank_bracketed _ rfl rfl, hasBlank_commas]
    rfl
  | .tuple (x :: y :: xs) => by
    rw [quoted, quotedItems, quotedItems, hasBlank_bracketed _ rfl rfl, hasBlank_commas]
    · rfl
    · exact nofun
  | .set [] => rfl
  | .set [x] => by
    rw [quoted, quotedItems, quotedItems, hasBlank_bracketed _ rfl rfl,
      String.intercalate_singleton, hasBlank_quoted x, quotesBlank]
    exact nofun
  | .set (x :: y :: xs) => by
    rw [quoted, quotedItems, quotedItems, hasBlank_bracketed _ rfl rfl, hasBlank_commas]
    · rfl
    · exact nofun
  | .map [] => rfl
  | .map [(k, v)] => by
    have colon : hasBlank ": " = true := rfl
    rw [quoted, quotedEntries, quotedEntries, hasBlank_bracketed _ rfl rfl,
      String.intercalate_singleton]
    simp [hasBlank_append, colon, quotesBlank]
  | .map ((k, v) :: (l, w) :: es) => by
    rw [quoted, quotedEntries, quotedEntries, hasBlank_bracketed _ rfl rfl, hasBlank_commas]
    rfl
  | .date d => hasBlank_quotedDate d
  | .moment m => hasBlank_quotedMoment m

/-- Whether the text of a value has white space in it is told by the value. -/
theorem hasBlank_plain (v : Value) : hasBlank v.plain = v.isSpaced := by
  cases v with
  | text s => rfl
  | object o => rfl
  | date d => exact hasBlank_date d
  | moment m => exact hasBlank_moment m
  | _ => exact hasBlank_quoted _

end Value
end SearchCriteria
