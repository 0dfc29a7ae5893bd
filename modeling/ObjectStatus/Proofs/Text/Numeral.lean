import Mathlib.Data.List.Forall2
import Mathlib.Data.Nat.Digits.Defs
import ObjectStatus.Text.Numeral

/-!
# The grammar of numerals

A numeral is an optional plus sign and one or more digits of its base, and it stands for the number
in which each digit weighs as much as its place says. The readers of numerals, which go through the
digits from the left and keep a running total, accept exactly these texts with these numbers.
-/

namespace ObjectStatus
namespace Numeral

/-- The digits up to sixteen, with small letters. -/
def smallDigits : List Char := "0123456789abcdef".toList

/-- The digits up to sixteen, with capitals. -/
def capitalDigits : List Char := "0123456789ABCDEF".toList

/-- The character is the digit of this value, in a base that has such a digit. -/
def IsDigit
    (base : Nat)
    (character : Char)
    (value : Nat) : Prop :=
  value < base ∧ (smallDigits[value]? = some character ∨ capitalDigits[value]? = some character)

/-- The text is one or more digits, and they stand for this number: the last digit counts once, and
every other one counts as often as its place says. -/
def IsDigits
    (base : Nat)
    (text : List Char)
    (number : Nat) : Prop :=
  text ≠ [] ∧
    ∃ values, List.Forall₂ (IsDigit base) text values ∧ number = Nat.ofDigits base values.reverse

/-- The text is one or more digits after an optional plus sign, and they stand for this number. -/
def IsUnsigned
    (base : Nat)
    (text : List Char)
    (number : Nat) : Prop :=
  ∃ sign digits,
    (sign = [] ∨ sign = ['+']) ∧ text = sign ++ digits ∧ IsDigits base digits number

/-- A character between two others stands in a table that has the characters from the first to the
last in order. -/
theorem getElem?_table
    {table : List Char}
    {first last character : Char}
    (offset : Nat)
    (entries : ∀ place ≤ last.toNat - first.toNat,
      table[place + offset]? = some (Char.ofNat (place + first.toNat)))
    (between : first ≤ character ∧ character ≤ last) :
    table[character.toNat - first.toNat + offset]? = some character := by
  have first_le : first.toNat ≤ character.toNat := between.1
  have le_last : character.toNat ≤ last.toNat := between.2
  rw [entries _ (by omega), Nat.sub_add_cancel first_le, Char.ofNat_toNat]

/-- A digit has its value by its code point exactly when it has it by its place in the tables. -/
theorem digitValue?_eq_some_iff
    {character : Char}
    {value : Nat} :
    digitValue? character = some value ↔
      smallDigits[value]? = some character ∨ capitalDigits[value]? = some character := by
  constructor
  · intro read
    unfold digitValue? at read
    split_ifs at read with decimal small capital
    · obtain rfl := Option.some.inj read
      exact Or.inl (getElem?_table 0 (by decide) decimal)
    · obtain rfl := Option.some.inj read
      exact Or.inl (getElem?_table 10 (by decide) small)
    · obtain rfl := Option.some.inj read
      exact Or.inr (getElem?_table 10 (by decide) capital)
  · have small_values :
        ∀ entry ∈ smallDigits.zipIdx, digitValue? entry.1 = some entry.2 := by decide
    have capital_values :
        ∀ entry ∈ capitalDigits.zipIdx, digitValue? entry.1 = some entry.2 := by decide
    rintro (found | found)
    · exact small_values (character, value) (List.mk_mem_zipIdx_iff_getElem?.2 found)
    · exact capital_values (character, value) (List.mk_mem_zipIdx_iff_getElem?.2 found)

theorem digit?_eq_some_iff
    {base : Nat}
    {character : Char}
    {value : Nat} :
    digit? base character = some value ↔ IsDigit base character value := by
  unfold digit? IsDigit
  rw [Option.filter_eq_some_iff, digitValue?_eq_some_iff, decide_eq_true_iff]
  exact And.comm

/-- What is in neither table is no digit. -/
theorem not_isDigit
    {character : Char}
    (absent : character ∉ smallDigits ∧ character ∉ capitalDigits)
    (base value : Nat) : ¬IsDigit base character value := by
  rintro ⟨-, found | found⟩
  · exact absent.1 (List.mem_of_getElem? found)
  · exact absent.2 (List.mem_of_getElem? found)

/-- Decimal digits come before the letters. -/
theorem IsDigit.toNat_lt
    {character : Char}
    {value : Nat}
    (isDigit : IsDigit 10 character value) : character.toNat < 'A'.toNat := by
  have before_letters :
      ((smallDigits.take 10 ++ capitalDigits.take 10).all
        fun character => character.toNat < 'A'.toNat) = true := by decide
  obtain ⟨below, found⟩ := isDigit
  apply of_decide_eq_true
  apply List.all_eq_true.1 before_letters
  rw [List.mem_append]
  rcases found with small | capital
  · left
    rw [← List.getElem?_take_of_lt below] at small
    exact List.mem_of_getElem? small
  · right
    rw [← List.getElem?_take_of_lt below] at capital
    exact List.mem_of_getElem? capital

theorem digitsFrom?_eq_some_iff
    {base total number : Nat}
    {text : List Char} :
    digitsFrom? base total text = some number ↔
      ∃ values,
        List.Forall₂ (IsDigit base) text values ∧
          number = total * base ^ text.length + Nat.ofDigits base values.reverse := by
  induction text generalizing total with
  | nil => simp [eq_comm]
  | cons character rest inductionHypothesis =>
      constructor
      · intro read
        rw [digitsFrom?] at read
        cases found : digit? base character with
        | none => simp [found] at read
        | some value =>
            rw [found] at read
            obtain ⟨values, are_digits, number_eq⟩ := inductionHypothesis.1 read
            refine ⟨value :: values, .cons (digit?_eq_some_iff.1 found) are_digits, ?_⟩
            rw [number_eq, Nat.ofDigits_reverse_cons, are_digits.length_eq, List.length_cons,
              are_digits.length_eq]
            ring
      · rintro ⟨values, are_digits, number_eq⟩
        cases are_digits with
        | @cons _ value _ values is_digit are_digits =>
            rw [digitsFrom?, digit?_eq_some_iff.2 is_digit]
            refine inductionHypothesis.2 ⟨values, are_digits, ?_⟩
            rw [number_eq, Nat.ofDigits_reverse_cons, List.length_cons, are_digits.length_eq]
            ring

/-- Digits are read as the number that they stand for. -/
theorem digits?_eq_some_iff
    {base number : Nat}
    {text : List Char} :
    digits? base text = some number ↔ IsDigits base text number := by
  unfold digits? IsDigits
  cases text with
  | nil => simp
  | cons character rest => simp [digitsFrom?_eq_some_iff]

/-- Digits do not begin with a plus sign. -/
theorem not_isDigits_plus
    (base number : Nat)
    (rest : List Char) : ¬IsDigits base ('+' :: rest) number := by
  rintro ⟨-, values, are_digits, -⟩
  cases are_digits with
  | cons is_digit _ => exact not_isDigit (by decide) base _ is_digit

/-- A numeral is read as the number that it stands for. -/
theorem natural?_eq_some_iff
    {base number : Nat}
    {text : List Char} :
    natural? base text = some number ↔ IsUnsigned base text number := by
  constructor
  · intro read
    unfold natural? at read
    split at read
    · exact ⟨['+'], _, Or.inr rfl, rfl, digits?_eq_some_iff.1 read⟩
    · exact ⟨[], _, Or.inl rfl, rfl, digits?_eq_some_iff.1 read⟩
  · rintro ⟨sign, digits, rfl | rfl, rfl, are_digits⟩
    · unfold natural?
      split
      · exact absurd are_digits (not_isDigits_plus base number _)
      · exact digits?_eq_some_iff.2 are_digits
    · exact digits?_eq_some_iff.2 are_digits

/-- A numeral is read below a bound when its number is below the bound. -/
theorem below?_eq_some_iff
    {bound base number : Nat}
    {text : List Char} :
    below? bound base text = some number ↔ IsUnsigned base text number ∧ number < bound := by
  unfold below?
  rw [Option.filter_eq_some_iff, natural?_eq_some_iff, decide_eq_true_iff]

/-- A numeral begins with a plus sign or a digit. -/
theorem IsUnsigned.head?_cases
    {base number : Nat}
    {text : List Char}
    (isUnsigned : IsUnsigned base text number) :
    text.head? = some '+' ∨
      ∃ character value, text.head? = some character ∧ IsDigit base character value := by
  obtain ⟨sign, digits, rfl | rfl, rfl, nonempty, values, are_digits, -⟩ := isUnsigned
  · cases are_digits with
    | nil => contradiction
    | cons is_digit _ => exact Or.inr ⟨_, _, rfl, is_digit⟩
  · exact Or.inl rfl

end Numeral
end ObjectStatus
