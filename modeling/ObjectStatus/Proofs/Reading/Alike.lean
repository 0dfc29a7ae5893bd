import ObjectStatus.Proofs.Reading.Shown

/-!
# Readings of texts that are spelled alike

Blanks around a text and the case of its letters do not matter to what it stands for. Names are
compared in upper case, and nothing folds the case of a literal; but the mark of base sixteen and
the digits behind it are accepted in either case, so a literal that is spelled in another way is
still a literal, and of the same byte.
-/

namespace ObjectStatus

/-! ## Spellings -/

namespace Text

theorem SameLetters.symm
    {first second : List Char}
    (same : SameLetters first second) : SameLetters second first :=
  upper_eq_upper_iff.1 (upper_eq_upper_iff.2 same).symm

theorem SameLetters.trans
    {first second third : List Char}
    (same : SameLetters first second)
    (same_third : SameLetters second third) : SameLetters first third :=
  upper_eq_upper_iff.1
    ((upper_eq_upper_iff.2 same).trans (upper_eq_upper_iff.2 same_third))

/-- A character that is no letter of the Latin alphabet is the same letter as no other one. -/
theorem eq_of_sameLetter_of_caseless
    {first second : Char}
    (caseless : first.toNat < 'A'.toNat)
    (same : SameLetter first second) : second = first := by
  simp only [Char.reduceToNat] at caseless
  rcases same with rfl | ⟨from_A, -, -⟩ | ⟨from_A, -, shifted⟩
  · rfl
  · simp only [Char.reduceToNat] at from_A
    omega
  · simp only [Char.reduceToNat] at from_A
    omega

/-- The two texts differ at most in the blanks around them and in the case of letters of the Latin
alphabet. -/
def SpelledAlike (first second : String) : Prop :=
  ∃ trimmed other,
    IsTrimmed first.toList trimmed ∧ IsTrimmed second.toList other ∧ SameLetters trimmed other

theorem spelledAlike_iff
    {first second : String} :
    SpelledAlike first second ↔ SameLetters (trim first.toList) (trim second.toList) := by
  constructor
  · rintro ⟨trimmed, other, isTrimmed, isTrimmed_other, same⟩
    rwa [isTrimmed.trim_eq, isTrimmed_other.trim_eq]
  · intro same
    exact ⟨_, _, isTrimmed_trim first.toList, isTrimmed_trim second.toList, same⟩

theorem SpelledAlike.refl (text : String) : SpelledAlike text text :=
  spelledAlike_iff.2 (upper_eq_upper_iff.1 rfl)

instance (first second : String) : Decidable (SpelledAlike first second) :=
  decidable_of_iff _ spelledAlike_iff.symm

end Text

/-! ## Numerals -/

namespace Numeral

/-- The value of a digit by its code point. -/
theorem digitValue?_eq (character : Char) :
    digitValue? character =
      if 48 ≤ character.toNat ∧ character.toNat ≤ 57 then some (character.toNat - 48)
      else if 97 ≤ character.toNat ∧ character.toNat ≤ 102 then some (character.toNat - 97 + 10)
      else if 65 ≤ character.toNat ∧ character.toNat ≤ 70 then some (character.toNat - 65 + 10)
      else none := rfl

/-- A letter has the same value as a digit in either case, or none in both. -/
theorem digitValue?_eq_of_isCapitalOf
    {capital small : Char}
    (isCapitalOf : Text.IsCapitalOf capital small) :
    digitValue? capital = digitValue? small := by
  obtain ⟨from_A, to_Z, shifted⟩ := isCapitalOf
  simp only [Char.reduceToNat] at from_A to_Z
  -- The two ranges of hexadecimal letters are as far apart as a letter and its capital.
  rw [digitValue?_eq, digitValue?_eq, shifted, Nat.add_sub_add_right]
  grind

theorem digitValue?_eq_of_sameLetter
    {first second : Char}
    (same : Text.SameLetter first second) : digitValue? first = digitValue? second := by
  rcases same with rfl | isCapitalOf | isCapitalOf
  · rfl
  · exact digitValue?_eq_of_isCapitalOf isCapitalOf
  · exact (digitValue?_eq_of_isCapitalOf isCapitalOf).symm

theorem IsDigit.of_sameLetter
    {base value : Nat}
    {first second : Char}
    (same : Text.SameLetter first second)
    (is_digit : IsDigit base first value) : IsDigit base second value := by
  rw [← digit?_eq_some_iff, digit?] at is_digit ⊢
  rwa [← digitValue?_eq_of_sameLetter same]

/-- The mark of base sixteen may be in either case. -/
theorem isMark_of_sameLetter
    {first second : Char}
    (same : Text.SameLetter first second)
    (isMark : first = 'x' ∨ first = 'X') : second = 'x' ∨ second = 'X' := by
  unfold Text.SameLetter Text.IsCapitalOf at same
  simp only [← Char.toNat_inj, Char.reduceToNat] at same isMark ⊢
  omega

/-- Digits stand for the same number in either case. -/
theorem IsDigits.of_sameLetters
    {base number : Nat}
    {first second : List Char}
    (same : Text.SameLetters first second)
    (are_digits : IsDigits base first number) : IsDigits base second number := by
  obtain ⟨nonempty, values, are_values, number_eq⟩ := are_digits
  refine ⟨?_, values, ?_, number_eq⟩
  · rintro rfl
    exact nonempty (List.forall₂_nil_right_iff.1 same)
  · clear nonempty number_eq
    induction same generalizing values with
    | nil => exact are_values
    | cons sameLetter _ inductionHypothesis =>
        cases are_values with
        | cons is_digit are_others =>
            exact .cons (is_digit.of_sameLetter sameLetter) (inductionHypothesis _ are_others)

/-- A plus sign has no case, so a numeral is still a numeral in either case. -/
theorem IsUnsigned.of_sameLetters
    {base number : Nat}
    {first second : List Char}
    (same : Text.SameLetters first second)
    (isUnsigned : IsUnsigned base first number) : IsUnsigned base second number := by
  obtain ⟨sign, digits, rfl | rfl, rfl, are_digits⟩ := isUnsigned
  · exact ⟨[], second, Or.inl rfl, rfl, are_digits.of_sameLetters same⟩
  · obtain ⟨plus, others, sameLetter, same_others, rfl⟩ := List.forall₂_cons_left_iff.1 same
    obtain rfl := Text.eq_of_sameLetter_of_caseless (by decide) sameLetter
    exact ⟨['+'], others, Or.inr rfl, rfl, are_digits.of_sameLetters same_others⟩

end Numeral

/-! ## Literals and names -/

/-- A literal stands for its byte in either case. -/
theorem IsByteLiteral.of_sameLetters
    {byte : UInt8}
    {first second : List Char}
    (same : Text.SameLetters first second)
    (isLiteral : IsByteLiteral first byte) : IsByteLiteral second byte := by
  cases isLiteral with
  | decimal isUnsigned => exact .decimal (isUnsigned.of_sameLetters same)
  | hexadecimal isMark isUnsigned =>
      obtain ⟨zero, _, same_zero, same_rest, rfl⟩ := List.forall₂_cons_left_iff.1 same
      obtain ⟨mark, digits, same_mark, same_digits, rfl⟩ :=
        List.forall₂_cons_left_iff.1 same_rest
      obtain rfl := Text.eq_of_sameLetter_of_caseless (by decide) same_zero
      exact
        .hexadecimal (Numeral.isMark_of_sameLetter same_mark isMark)
          (isUnsigned.of_sameLetters same_digits)

/-- A name names its code in either case. -/
theorem Code.IsNamedBy.of_sameLetters
    {code : Code}
    {first second : List Char}
    (same : Text.SameLetters first second)
    (named : code.IsNamedBy first) : code.IsNamedBy second := by
  obtain ⟨label, member, same_name⟩ := named
  exact ⟨label, member, same.symm.trans same_name⟩

namespace Reading

/-- Texts that are spelled alike stand for the same, or both for nothing. -/
theorem ofText?_eq_of_spelledAlike
    {first second : String}
    (alike : Text.SpelledAlike first second) : ofText? first = ofText? second := by
  have same := Text.spelledAlike_iff.1 alike
  rcases Code.read_cases first with ⟨code, named, -⟩ | ⟨byte, isLiteral, -⟩ |
    ⟨unnamed, no_literal, -⟩
  · rw [ofText?_of_isNamedBy named, ofText?_of_isNamedBy (named.of_sameLetters same)]
  · rw [ofText?_of_isByteLiteral isLiteral,
      ofText?_of_isByteLiteral (isLiteral.of_sameLetters same)]
  · rw [ofText?_eq_none unnamed no_literal, ofText?_eq_none]
    · exact fun code named => unnamed code (named.of_sameLetters same.symm)
    · exact fun byte isLiteral => no_literal byte (isLiteral.of_sameLetters same.symm)

end Reading
end ObjectStatus
