import Mathlib.Data.Bool.AllAny
import Mathlib.Data.List.Basic

/-! The texts that are JSON, by the form of each of their parts. In none of them does a name of a
number stand in the open: outside of strings there is no other capital letter than that of an
exponent. -/
namespace SearchCriteria
namespace Json

/-- Decimal digits, and at least one. -/
def AreDigits (cs : List Char) : Prop := cs ≠ [] ∧ ∀ c ∈ cs, c.isDigit = true

/-- Digits that do not begin with a zero, unless that is the only one. -/
def IsWhole (cs : List Char) : Prop := AreDigits cs ∧ (cs.head? = some '0' → cs = ['0'])

def IsFraction (cs : List Char) : Prop := cs = [] ∨ ∃ ds, AreDigits ds ∧ cs = '.' :: ds

def IsExponent (cs : List Char) : Prop :=
  cs = [] ∨ ∃ mark sign ds, mark ∈ ['e', 'E'] ∧ sign ∈ [[], ['+'], ['-']] ∧ AreDigits ds ∧
    cs = mark :: (sign ++ ds)

def IsNumber (cs : List Char) : Prop :=
  ∃ sign whole fraction exponent, sign ∈ [[], ['-']] ∧ IsWhole whole ∧ IsFraction fraction ∧
    IsExponent exponent ∧ cs = sign ++ (whole ++ (fraction ++ exponent))

def IsHexDigit (c : Char) : Prop :=
  c.isDigit = true ∨ c ∈ ['a', 'b', 'c', 'd', 'e', 'f', 'A', 'B', 'C', 'D', 'E', 'F']

/-- What a character of a string is written as: itself, a letter behind a backslash, or the four
digits of a unit. -/
inductive IsStringPart : List Char → Prop where
  | plain {c : Char} : 0x20 ≤ c.toNat → c ≠ '"' → c ≠ '\\' → IsStringPart [c]
  | escape {c : Char} : c ∈ ['"', '\\', '/', 'b', 'f', 'n', 'r', 't'] → IsStringPart ['\\', c]
  | unit {ds : List Char} : ds.length = 4 → (∀ d ∈ ds, IsHexDigit d) →
    IsStringPart ('\\' :: 'u' :: ds)

def IsString (cs : List Char) : Prop :=
  ∃ parts : List (List Char), (∀ p ∈ parts, IsStringPart p) ∧ cs = '"' :: (parts.flatten ++ ['"'])

def IsSpace (cs : List Char) : Prop := ∀ c ∈ cs, c ∈ [' ', '\t', '\n', '\r']

instance : DecidablePred IsSpace := fun cs => List.decidableBAll _ cs

theorem isSpace_nil : IsSpace [] := nofun

/-- The words that are values. -/
def literals : List String := ["null", "true", "false"]

mutual

/-- A value: a word, a number, a string, or parts with commas between them in brackets. -/
inductive IsValue : List Char → Prop where
  | literal {w : String} : w ∈ literals → IsValue w.toList
  | number {cs : List Char} : IsNumber cs → IsValue cs
  | string {cs : List Char} : IsString cs → IsValue cs
  | emptyArray {space : List Char} : IsSpace space → IsValue ('[' :: (space ++ [']']))
  | array {items : List (List Char)} : items ≠ [] → (∀ cs ∈ items, IsElement cs) →
    IsValue ('[' :: ([','].intercalate items ++ [']']))
  | emptyObject {space : List Char} : IsSpace space → IsValue ('\x7b' :: (space ++ ['\x7d']))
  | object {members : List (List Char)} : members ≠ [] → (∀ cs ∈ members, IsMember cs) →
    IsValue ('\x7b' :: ([','].intercalate members ++ ['\x7d']))

/-- A value with space around it. -/
inductive IsElement : List Char → Prop where
  | mk {before value after : List Char} : IsSpace before → IsValue value → IsSpace after →
    IsElement (before ++ (value ++ after))

/-- A name, a colon and an element. -/
inductive IsMember : List Char → Prop where
  | mk {before name after element : List Char} : IsSpace before → IsString name → IsSpace after →
    IsElement element → IsMember (before ++ (name ++ (after ++ ':' :: element)))

end

/-- A whole text. -/
def IsText (cs : List Char) : Prop := IsElement cs

/-- Where in a text a character stands with respect to strings. -/
inductive Quotation where
  | outside
  | inside
  | escaped
deriving DecidableEq, Repr

def Quotation.next : Quotation → Char → Quotation
  | .outside, c => if c = '"' then .inside else .outside
  | .inside, c => if c = '"' then .outside else if c = '\\' then .escaped else .inside
  | .escaped, _ => .inside

/-- Whether a letter stands in the open with which a name of a number begins. -/
def namesNumber : Quotation → List Char → Bool
  | _, [] => false
  | m, c :: cs => (m = .outside && (c = 'N' || c = 'I')) || namesNumber (m.next c) cs

/-- A text that comes to an end outside of strings, and does or does not name a number in the
open. -/
structure Exposes (cs : List Char) (named : Bool) : Prop where
  closed : cs.foldl Quotation.next .outside = .outside
  named : namesNumber .outside cs = named

section Exposes
variable {cs ds : List Char} {a b : Bool} {c : Char}

theorem namesNumber_append (m : Quotation) :
    namesNumber m (cs ++ ds) = (namesNumber m cs || namesNumber (cs.foldl Quotation.next m) ds) := by
  induction cs generalizing m with
  | nil => rfl
  | cons c cs ih => simp only [List.cons_append, namesNumber, ih, List.foldl_cons, Bool.or_assoc]

theorem exposes_nil : Exposes [] false := ⟨rfl, rfl⟩

theorem Exposes.append (first : Exposes cs a) (second : Exposes ds b) :
    Exposes (cs ++ ds) (a || b) where
  closed := by rw [List.foldl_append, first.closed, second.closed]
  named := by rw [namesNumber_append, first.closed, first.named, second.named]

/-- A character that is no quotation mark, before a text. -/
theorem Exposes.cons (rest : Exposes cs a) (bare : c ≠ '"') :
    Exposes (c :: cs) ((c = 'N' || c = 'I') || a) where
  closed := by simpa [Quotation.next, bare] using rest.closed
  named := by simp [namesNumber, Quotation.next, bare, rest.named]

/-- A character that is neither a quotation mark nor the first letter of a name of a number. -/
def IsBare (c : Char) : Prop := c ≠ '"' ∧ c ≠ 'N' ∧ c ≠ 'I'

instance : DecidablePred IsBare := fun _ => inferInstanceAs (Decidable (_ ∧ _ ∧ _))

theorem Exposes.bare (rest : Exposes cs a) (bare : IsBare c) : Exposes (c :: cs) a := by
  simpa [bare.2.1, bare.2.2] using rest.cons bare.1

theorem exposes_bare (bare : ∀ c ∈ cs, IsBare c) : Exposes cs false := by
  induction cs with
  | nil => exact exposes_nil
  | cons c cs ih =>
    rw [List.forall_mem_cons] at bare
    exact (ih bare.2).bare bare.1

theorem exposes_single (bare : IsBare c) : Exposes [c] false :=
  exposes_bare (List.forall_mem_singleton.mpr bare)

theorem exposes_intercalate {items : List (List Char)} (each : ∀ cs ∈ items, Exposes cs false) :
    Exposes ([','].intercalate items) false := by
  induction items with
  | nil => exact exposes_nil
  | cons cs items ih =>
    rw [List.forall_mem_cons] at each
    cases items with
    | nil => simpa using each.1
    | cons ds items =>
      rw [List.intercalate_cons_cons, List.append_assoc]
      exact each.1.append ((ih each.2).bare (by decide))

end Exposes

section Parts
variable {cs : List Char} {c : Char}

theorem isBare_of_isDigit (digit : c.isDigit = true) : IsBare c := by
  refine ⟨?_, ?_, ?_⟩ <;> rintro rfl <;> contradiction

/-- What a number consists of. -/
theorem mem_number (number : IsNumber cs) :
    ∀ c ∈ cs, c.isDigit = true ∨ c ∈ ['+', '-', '.', 'e', 'E'] := by
  obtain ⟨sign, whole, fraction, exponent, signed, digits, fractional, exponential, rfl⟩ := number
  simp only [List.forall_mem_append]
  refine ⟨?_, fun c member => .inl (digits.1.2 c member), ?_, ?_⟩
  · simp only [List.mem_cons, List.not_mem_nil, or_false] at signed
    rcases signed with rfl | rfl <;> simp
  · obtain rfl | ⟨ds, behind, rfl⟩ := fractional
    · simp
    · exact List.forall_mem_cons.mpr ⟨by decide, fun c member => .inl (behind.2 c member)⟩
  · obtain rfl | ⟨mark, sign, ds, marked, signed, power, rfl⟩ := exponential
    · simp
    · simp only [List.mem_cons, List.not_mem_nil, or_false] at marked signed
      rw [List.forall_mem_cons, List.forall_mem_append]
      refine ⟨?_, ?_, fun c member => .inl (power.2 c member)⟩
      · rcases marked with rfl | rfl <;> decide
      · rcases signed with rfl | rfl | rfl <;> simp

theorem exposes_number (number : IsNumber cs) : Exposes cs false := by
  have marks : ∀ c ∈ ['+', '-', '.', 'e', 'E'], IsBare c := List.all_iff_forall_prop.mp rfl
  exact exposes_bare fun c member =>
    (mem_number number c member).elim isBare_of_isDigit (marks c)

theorem exposes_space (space : IsSpace cs) : Exposes cs false := by
  refine exposes_bare fun c member => ?_
  have known := space c member
  simp only [List.mem_cons, List.not_mem_nil, or_false] at known
  rcases known with rfl | rfl | rfl | rfl <;> decide

theorem foldl_inside (bare : ∀ c ∈ cs, c ≠ '"' ∧ c ≠ '\\') :
    cs.foldl Quotation.next .inside = .inside ∧ namesNumber .inside cs = false := by
  induction cs with
  | nil => exact ⟨rfl, rfl⟩
  | cons c cs ih =>
    rw [List.forall_mem_cons] at bare
    simpa [Quotation.next, namesNumber, bare.1] using ih bare.2

/-- Reading a part of a string does not lead out of it. -/
theorem foldl_stringPart (part : IsStringPart cs) :
    cs.foldl Quotation.next .inside = .inside ∧ namesNumber .inside cs = false := by
  cases part with
  | plain _ mark backslash => exact foldl_inside (by simpa using ⟨mark, backslash⟩)
  | escape _ => exact ⟨rfl, rfl⟩
  | @unit ds _ hex =>
    have digits : ∀ d ∈ ds, d ≠ '"' ∧ d ≠ '\\' := by
      intro d member
      obtain digit | letter := hex d member
      · constructor <;> rintro rfl <;> contradiction
      · constructor <;> rintro rfl <;> revert letter <;> decide
    have rest := foldl_inside digits
    exact rest

/-- Nothing in a string stands in the open. -/
theorem exposes_string (string : IsString cs) : Exposes cs false := by
  obtain ⟨parts, each, rfl⟩ := string
  have inside : parts.flatten.foldl Quotation.next .inside = .inside ∧
      namesNumber .inside parts.flatten = false := by
    induction parts with
    | nil => exact ⟨rfl, rfl⟩
    | cons p parts ih =>
      rw [List.forall_mem_cons] at each
      obtain ⟨first, hidden⟩ := foldl_stringPart each.1
      obtain ⟨rest, others⟩ := ih each.2
      rw [List.flatten_cons, List.foldl_append, namesNumber_append, first, hidden, rest, others]
      exact ⟨rfl, rfl⟩
  constructor
  · rw [List.foldl_cons, List.foldl_append]
    change List.foldl Quotation.next (parts.flatten.foldl Quotation.next .inside) ['"'] = _
    rw [inside.1]
    rfl
  · change namesNumber .inside (parts.flatten ++ ['"']) = false
    rw [namesNumber_append, inside.1, inside.2]
    rfl

theorem exposes_literal {w : String} (known : w ∈ literals) : Exposes w.toList false := by
  simp only [literals, List.mem_cons, List.not_mem_nil, or_false] at known
  rcases known with rfl | rfl | rfl <;> exact exposes_bare (List.all_iff_forall_prop.mp rfl)

end Parts

/-- In no text that is JSON is a number named in the open. The induction is on how the text is put
together, with the same to be shown of values, of elements and of members. -/
theorem exposes_text {cs : List Char} (text : IsText cs) : Exposes cs false := by
  refine @IsElement.rec (fun cs _ => Exposes cs false) (fun cs _ => Exposes cs false)
    (fun cs _ => Exposes cs false) ?literal ?number ?string ?emptyArray ?array ?emptyObject ?object
    ?element ?member cs text
  case literal => exact exposes_literal
  case number => exact exposes_number
  case string => exact exposes_string
  case emptyArray =>
    intro space spaces
    exact ((exposes_space spaces).append (exposes_single (by decide))).bare (by decide)
  case array =>
    intro items _ _ each
    exact ((exposes_intercalate each).append (exposes_single (by decide))).bare (by decide)
  case emptyObject =>
    intro space spaces
    exact ((exposes_space spaces).append (exposes_single (by decide))).bare (by decide)
  case object =>
    intro members _ _ each
    exact ((exposes_intercalate each).append (exposes_single (by decide))).bare (by decide)
  case element =>
    intro before value after first _ last inner
    exact (exposes_space first).append (inner.append (exposes_space last))
  case member =>
    intro before name after element first key last _ inner
    exact (exposes_space first).append
      ((exposes_string key).append ((exposes_space last).append (inner.bare (by decide))))

end Json
end SearchCriteria
