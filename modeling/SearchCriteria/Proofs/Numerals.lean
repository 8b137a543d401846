import Mathlib.Data.List.DropRight
import SearchCriteria.Json.Writer
import SearchCriteria.Proofs.JsonText

/-! What numbers are written as. An integer and a finite double are numbers of JSON, the double
because its shortest digits begin with one that is not zero. -/
namespace SearchCriteria

namespace Json
variable {cs ds : List Char}

/-- Digits that do not begin with a zero. -/
def IsLeading (cs : List Char) : Prop := AreDigits cs ∧ cs.head? ≠ some '0'

theorem IsLeading.isWhole (leading : IsLeading cs) : IsWhole cs :=
  ⟨leading.1, fun zero => absurd zero leading.2⟩

/-- Leading digits are leading also when others that follow them are left out. -/
theorem IsLeading.start (leading : IsLeading cs) (start : ds <+: cs) (kept : ds ≠ []) :
    IsLeading ds := by
  refine ⟨⟨kept, fun c member => leading.1.2 c (start.subset member)⟩, ?_⟩
  obtain ⟨d, rest, rfl⟩ := List.exists_cons_of_ne_nil kept
  obtain ⟨others, rfl⟩ := start
  exact leading.2

theorem IsLeading.followed (leading : IsLeading cs) (digits : ∀ c ∈ ds, c.isDigit = true) :
    IsLeading (cs ++ ds) := by
  obtain ⟨c, rest, rfl⟩ := List.exists_cons_of_ne_nil leading.1.1
  refine ⟨⟨List.cons_ne_nil _ _, fun x member => ?_⟩, leading.2⟩
  exact (List.mem_append.mp member).elim (leading.1.2 x) (digits x)

theorem AreDigits.behind (behind : AreDigits ds) (digits : ∀ c ∈ cs, c.isDigit = true) :
    AreDigits (cs ++ ds) := by
  refine ⟨fun none => behind.1 (List.append_eq_nil_iff.mp none).2, fun x member => ?_⟩
  exact (List.mem_append.mp member).elim (digits x) (behind.2 x)

theorem isDigit_of_zeros {n : Nat} : ∀ c ∈ List.replicate n '0', c.isDigit = true := by
  intro c member
  rw [List.eq_of_mem_replicate member]
  rfl

theorem areDigits_toDigits (n : Nat) : AreDigits (Nat.toDigits 10 n) :=
  ⟨Nat.toDigits_ne_nil, fun _ => Nat.isDigit_of_mem_toDigits (by decide) (by decide)⟩

theorem digitChar_ne_zero : ∀ n < 10, n ≠ 0 → Nat.digitChar n ≠ '0' := by decide

theorem isLeading_toDigits {n : Nat} (some : n ≠ 0) : IsLeading (Nat.toDigits 10 n) := by
  refine ⟨areDigits_toDigits n, ?_⟩
  induction n using Nat.strongRecOn with
  | ind n ih =>
    rw [Nat.toDigits_eq_if (by decide)]
    split
    · rename_i small
      simpa using digitChar_ne_zero n small some
    · have tens : n / 10 ≠ 0 := by omega
      rw [List.head?_append_of_ne_nil _ Nat.toDigits_ne_nil]
      exact ih (n / 10) (by omega) tens

theorem isHexDigit_digitChar : ∀ n < 16, IsHexDigit (Nat.digitChar n) := by
  unfold IsHexDigit
  decide

theorem isHexDigit_toDigits (n : Nat) : ∀ c ∈ Nat.toDigits 16 n, IsHexDigit c := by
  induction n using Nat.strongRecOn with
  | ind n ih =>
    rw [Nat.toDigits_eq_if (by decide)]
    split
    · rename_i small
      exact List.forall_mem_singleton.mpr (isHexDigit_digitChar n small)
    · rw [List.forall_mem_append, List.forall_mem_singleton]
      exact ⟨ih (n / 16) (by omega), isHexDigit_digitChar _ (Nat.mod_lt n (by decide))⟩

/-- A code in hexadecimal digits, filled up with zeros. -/
theorem isHexDigit_hexDigits (width n : Nat) : ∀ c ∈ hexDigits width n, IsHexDigit c := by
  simp only [hexDigits, List.leftpad, List.forall_mem_append]
  exact ⟨fun c zero => .inl (isDigit_of_zeros c zero), isHexDigit_toDigits n⟩

theorem isWhole_zero : IsWhole ['0'] :=
  ⟨⟨List.cons_ne_nil _ _, List.forall_mem_singleton.mpr rfl⟩, fun _ => rfl⟩

theorem isWhole_toDigits (n : Nat) : IsWhole (Nat.toDigits 10 n) := by
  by_cases zero : n = 0
  · subst zero
    exact isWhole_zero
  · exact (isLeading_toDigits zero).isWhole

theorem isNumber_of_isWhole {sign : List Char} (signed : sign ∈ [[], ['-']]) (whole : IsWhole cs) :
    IsNumber (sign ++ cs) :=
  ⟨sign, cs, [], [], signed, whole, .inl rfl, .inl rfl, by rw [List.append_nil, List.append_nil]⟩

theorem isNumber_int (n : Int) : IsNumber (toString n).toList := by
  have repr (m : Nat) : m.repr.toList = Nat.toDigits 10 m := by
    rw [← Nat.toString_eq_repr, Nat.toString_eq_ofList_toDigits, String.toList_ofList]
  rw [Int.toString_eq_repr]
  cases n with
  | ofNat m =>
    have plain : IsNumber ([] ++ Nat.toDigits 10 m) :=
      isNumber_of_isWhole (by decide) (isWhole_toDigits m)
    rw [← repr] at plain
    exact plain
  | negSucc m =>
    change IsNumber ("-" ++ (m + 1).repr).toList
    rw [String.toList_append, repr]
    exact isNumber_of_isWhole (by decide) (isWhole_toDigits (m + 1))

end Json

namespace Binary64

theorem significandOfRank_pos {rank : Nat} (some : rank ≠ 0) : 0 < significandOfRank rank := by
  unfold significandOfRank
  split
  · omega
  · have bit : 0 < binade := by decide
    omega

theorem low_pos {rank : Nat} (some : rank ≠ 0) : 0 < (intervalOfRank rank).low := by
  have significand := significandOfRank_pos some
  simp only [intervalOfRank]
  split <;> omega

/-- Zero is no decimal that stands for a magnitude above zero. -/
theorem digits_of_onGrid {rank : Nat} {power : Int} {d : Decimal} (some : rank ≠ 0)
    (made : onGrid rank power = .some d) : d.digits ≠ 0 := by
  unfold onGrid at made
  extract_lets i e up unit inside below rest nearer at made
  have low : 0 < i.low * up := Nat.mul_pos (low_pos some)
    (Nat.mul_pos (Nat.pow_pos (by decide)) (Nat.pow_pos (by decide)))
  have outside : inside 0 = false := by simp [inside, Nat.ne_of_gt low]
  have positive {n : Nat} (within : inside n = true) : n ≠ 0 := by
    rintro rfl
    rw [outside] at within
    cases within
  have near : nearer = below ∨ nearer = below + 1 := by
    simp only [nearer]
    split <;> simp
  split at made
  · rename_i both
    cases made
    change nearer ≠ 0
    obtain same | same := near
    · rw [same]
      exact positive (Bool.and_eq_true_iff.mp both).1
    · rw [same]
      exact Nat.succ_ne_zero below
  · split at made
    · rename_i within
      cases made
      exact positive within
    · split at made
      · cases made
        exact Nat.succ_ne_zero below
      · cases made

/-- The shortest digits of a magnitude above zero are not zero, if there are any. -/
theorem shortest_digits {rank : Nat} (some : rank ≠ 0) :
    (shortest rank).digits ≠ 0 ∨ shortest rank = ⟨0, 0⟩ := by
  have shape : shortest rank = ((List.range 17).findSome? fun (n : Nat) => onGrid rank
      (leadingPower (ratioOfRank rank).1 (ratioOfRank rank).2 - n)).getD ⟨0, 0⟩ := rfl
  rw [shape]
  generalize leadingPower (ratioOfRank rank).1 (ratioOfRank rank).2 = lead
  cases found : (List.range 17).findSome? fun (n : Nat) => onGrid rank (lead - n) with
  | none => exact .inr rfl
  | some d =>
    obtain ⟨n, _, made⟩ := List.exists_of_findSome?_eq_some found
    exact .inl (digits_of_onGrid some made)

end Binary64

namespace Decimal

/-- Without trailing zeros the digits of a number still begin with the same one. -/
theorem isLeading_normal {d : Decimal} (some : d.digits ≠ 0) : Json.IsLeading d.normal.1 := by
  have all := Json.isLeading_toDigits some
  refine all.start (List.rdropWhile_prefix (· == '0') _) fun none => ?_
  obtain ⟨c, cs, digits⟩ := List.exists_cons_of_ne_nil all.1.1
  have zero := List.rdropWhile_eq_nil_iff.mp none c (by simp [digits])
  have first : c ≠ '0' := by simpa [digits] using all.2
  exact first (beq_iff_eq.mp zero)

end Decimal

namespace DecimalLayout
open Json
variable {sign ds : List Char} {lead : Int}

theorem isNumber_positional (signed : sign ∈ [[], ['-']]) (leading : IsLeading ds) :
    IsNumber (sign ++ positional ds lead) := by
  unfold positional
  split
  · exact ⟨sign, ['0'], '.' :: (List.replicate (-lead - 1).toNat '0' ++ ds), [], signed,
      isWhole_zero, .inr ⟨_, leading.1.behind isDigit_of_zeros, rfl⟩, .inl rfl, by simp⟩
  · extract_lets whole fraction
    have some : ds.take whole ≠ [] := by simpa [whole] using leading.1.1
    have digits := (leading.start (List.take_prefix whole ds) some).followed
      (isDigit_of_zeros (n := whole - (ds.take whole).length))
    have behind : AreDigits (if fraction.isEmpty then ['0'] else fraction) := by
      split
      · exact isWhole_zero.1
      · rename_i more
        exact ⟨by simpa using more, fun c member => leading.1.2 c (List.mem_of_mem_drop member)⟩
    exact ⟨sign, _, _, [], signed, digits.isWhole, .inr ⟨_, behind, rfl⟩, .inl rfl, by
      simp [List.rightpad]⟩

theorem isNumber_scientific (signed : sign ∈ [[], ['-']]) (leading : IsLeading ds) :
    IsNumber (sign ++ scientific ds lead) := by
  unfold scientific
  extract_lets fraction
  have some : ds.take 1 ≠ [] := by simpa using leading.1.1
  have digit := leading.start (List.take_prefix 1 ds) some
  have behind : IsFraction (if fraction.isEmpty then [] else '.' :: fraction) := by
    split
    · exact .inl rfl
    · rename_i more
      exact .inr ⟨fraction, ⟨by simpa using more, fun c member =>
        leading.1.2 c (List.mem_of_mem_drop member)⟩, rfl⟩
  have power : IsExponent ('e' :: exponentText lead) := by
    refine .inr ⟨'e', [if lead < 0 then '-' else '+'], _, by decide, ?_,
      (areDigits_toDigits lead.natAbs).behind isDigit_of_zeros, rfl⟩
    split <;> decide
  exact ⟨sign, _, _, _, signed, digit.isWhole, behind, power, by simp⟩

/-- A finite double is written as a number of JSON, in any layout that writes zero positionally. -/
theorem isNumber_text (l : DecimalLayout) (ordinary : l.positionalFrom ≤ 0 ∧ 0 < l.positionalUntil)
    (negative : Bool) (rank : Fin Binary64.finiteCount) :
    IsNumber (l.text (.finite negative rank)).toList := by
  let sign : List Char := if negative then ['-'] else []
  have signed : sign ∈ [[], ['-']] := by cases negative <;> decide
  let layout (digits : List Char × Int) : List Char :=
    if l.positionalFrom ≤ digits.2 && digits.2 < l.positionalUntil then positional digits.1 digits.2
    else scientific digits.1 digits.2
  have zero : IsNumber (sign ++ ['0', '.', '0']) := ⟨sign, ['0'], ['.', '0'], [], signed,
    isWhole_zero, .inr ⟨['0'], isWhole_zero.1, rfl⟩, .inl rfl, rfl⟩
  have placed (digits : List Char) (small : digits = [] ∨ digits = ['0']) :
      layout (digits, 0) = ['0', '.', '0'] := by
    have here : (l.positionalFrom ≤ 0 && 0 < l.positionalUntil) = true := by simpa using ordinary
    simp only [layout, here, if_true]
    rcases small with rfl | rfl <;> rfl
  have whole : (l.text (.finite negative rank)).toList = sign ++ layout
      (if rank.val == 0 then (['0'], 0) else (Binary64.shortest rank.val).normal) := by
    simp only [text, String.toList_ofList, sign, layout]
    cases negative <;> simp
  rw [whole]
  by_cases none : rank.val = 0
  · have first : (rank.val == 0) = true := by simpa using none
    rw [first, if_pos rfl, placed _ (.inr rfl)]
    exact zero
  · have first : (rank.val == 0) = false := by simpa using none
    rw [first, if_neg Bool.false_ne_true]
    obtain some | default := Binary64.shortest_digits none
    · have leading := Decimal.isLeading_normal some
      simp only [layout]
      split
      · exact isNumber_positional signed leading
      · exact isNumber_scientific signed leading
    · -- Where no decimal was found there are no digits, which are laid out as those of zero.
      rw [default]
      change IsNumber (sign ++ layout ([], 0))
      rw [placed _ (.inl rfl)]
      exact zero

end DecimalLayout
end SearchCriteria
