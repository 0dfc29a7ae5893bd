import ObjectStatus.Proofs.Text.Numeral

/-!
# Written numerals

What the writers of numerals put down is read as the number that was written, whatever the base and
however many zeros fill it up.
-/

namespace ObjectStatus
namespace Numeral

theorem isDigit_digitChar
    {base value : Nat}
    (base_le : base ≤ 16)
    (below : value < base) : IsDigit base (Nat.digitChar value) value := by
  have in_table : ∀ digit < 16, smallDigits[digit]? = some (Nat.digitChar digit) := by decide
  exact ⟨below, Or.inl (in_table value (Nat.lt_of_lt_of_le below base_le))⟩

/-- One digit more stands for the number that has the others in front of it. -/
theorem IsDigits.append_digit
    {base number value : Nat}
    {text : List Char}
    {character : Char}
    (are_digits : IsDigits base text number)
    (is_digit : IsDigit base character value) :
    IsDigits base (text ++ [character]) (base * number + value) := by
  obtain ⟨-, values, are_values, rfl⟩ := are_digits
  refine ⟨by simp, values ++ [value], ?_, ?_⟩
  · exact List.rel_append are_values (.cons is_digit .nil)
  · rw [List.reverse_append, List.reverse_singleton, List.singleton_append, Nat.ofDigits_cons]
    exact Nat.add_comm _ _

/-- The digits of a number stand for it. -/
theorem isDigits_toDigits
    {base : Nat}
    (one_lt : 1 < base)
    (base_le : base ≤ 16)
    (number : Nat) : IsDigits base (Nat.toDigits base number) number := by
  induction number using Nat.strongRecOn with
  | ind number inductionHypothesis =>
      by_cases below : number < base
      · rw [Nat.toDigits_of_lt_base below]
        exact ⟨by simp, [number], .cons (isDigit_digitChar base_le below) .nil, by simp⟩
      · have base_le_number : base ≤ number := Nat.le_of_not_lt below
        have quotient_lt : number / base < number :=
          Nat.div_lt_self (Nat.lt_of_lt_of_le (by omega) base_le_number) one_lt
        have remainder_lt : number % base < base := Nat.mod_lt number (by omega)
        have whole :=
          (inductionHypothesis (number / base) quotient_lt).append_digit
            (isDigit_digitChar base_le remainder_lt)
        rw [Nat.div_add_mod] at whole
        rwa [Nat.toDigits_of_base_le one_lt base_le_number]

/-- Zeros in front change nothing. -/
theorem IsDigits.replicate_zero_append
    {base number : Nat}
    {text : List Char}
    (base_pos : 0 < base)
    (are_digits : IsDigits base text number)
    (count : Nat) : IsDigits base (List.replicate count '0' ++ text) number := by
  have zero : IsDigit base '0' 0 := ⟨base_pos, Or.inl rfl⟩
  induction count with
  | zero => exact are_digits
  | succ count inductionHypothesis =>
      obtain ⟨-, values, are_values, number_eq⟩ := inductionHypothesis
      refine ⟨by simp [List.replicate_succ], 0 :: values, .cons zero are_values, ?_⟩
      rw [number_eq, Nat.ofDigits_reverse_cons, Nat.mul_zero, Nat.add_zero]

/-- A number that is filled up with zeros is still read as it was written. -/
theorem isDigits_padded
    {base : Nat}
    (one_lt : 1 < base)
    (base_le : base ≤ 16)
    (count number : Nat) : IsDigits base (padded base count number) number :=
  (isDigits_toDigits one_lt base_le number).replicate_zero_append (by omega) _

/-- Digits without a sign are a numeral. -/
theorem IsDigits.isUnsigned
    {base number : Nat}
    {text : List Char}
    (are_digits : IsDigits base text number) : IsUnsigned base text number :=
  ⟨[], text, Or.inl rfl, rfl, are_digits⟩

/-- Digits are letters or decimal digits. -/
theorem IsDigit.isAlphanum
    {base value : Nat}
    {character : Char}
    (is_digit : IsDigit base character value) : character.isAlphanum = true := by
  have tables :
      ((smallDigits ++ capitalDigits).all fun character => character.isAlphanum) = true := by decide
  apply List.all_eq_true.1 tables
  rw [List.mem_append]
  exact is_digit.2.imp List.mem_of_getElem? List.mem_of_getElem?

theorem IsDigits.isAlphanum
    {base number : Nat}
    {text : List Char}
    (are_digits : IsDigits base text number) :
    ∀ character ∈ text, character.isAlphanum = true := by
  obtain ⟨-, values, are_values, -⟩ := are_digits
  induction are_values with
  | nil => exact fun _ absent => absurd absent List.not_mem_nil
  | cons is_digit _ inductionHypothesis =>
      exact List.forall_mem_cons.mpr ⟨is_digit.isAlphanum, inductionHypothesis⟩

end Numeral
end ObjectStatus
