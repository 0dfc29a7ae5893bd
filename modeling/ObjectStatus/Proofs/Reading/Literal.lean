import ObjectStatus.Proofs.Reading.Shown

/-!
# The grammar of words

The text of a word is a numeral of its byte: decimal digits after an optional plus sign, or the mark
of base sixteen and hexadecimal digits, again after an optional plus sign. A numeral may have any
number of zeros in front and blanks around it, none of them inside. It stands for one number, and
the word is read exactly when that number is a byte; every other text is reported as it was written.
-/

namespace ObjectStatus

/-- The text is a numeral, decimal or hexadecimal after its mark, and stands for this number. -/
inductive IsNumeral : List Char → Nat → Prop
  /-- A decimal numeral. -/
  | decimal {text : List Char} {number : Nat} :
      Numeral.IsUnsigned 10 text number → IsNumeral text number
  /-- A hexadecimal numeral after its mark. -/
  | hexadecimal {mark : Char} {text : List Char} {number : Nat} :
      mark = 'x' ∨ mark = 'X' →
      Numeral.IsUnsigned 16 text number →
      IsNumeral ('0' :: mark :: text) number

/-- A byte literal is a numeral of a byte. -/
theorem isByteLiteral_iff_isNumeral
    {text : List Char}
    {byte : UInt8} : IsByteLiteral text byte ↔ IsNumeral text byte.toNat := by
  constructor
  · intro isLiteral
    cases isLiteral with
    | decimal isUnsigned => exact .decimal isUnsigned
    | hexadecimal isMark isUnsigned => exact .hexadecimal isMark isUnsigned
  · intro isNumeral
    cases isNumeral with
    | decimal isUnsigned => exact .decimal isUnsigned
    | hexadecimal isMark isUnsigned => exact .hexadecimal isMark isUnsigned

namespace Numeral

/-- A numeral of one base stands for one number. -/
theorem IsUnsigned.unique
    {base number other : Nat}
    {text : List Char}
    (isUnsigned : IsUnsigned base text number)
    (otherwise : IsUnsigned base text other) : number = other := by
  rw [← natural?_eq_some_iff] at isUnsigned otherwise
  exact Option.some.inj (isUnsigned.symm.trans otherwise)

/-- A plus sign is no blank, and neither is a digit. -/
theorem IsUnsigned.isBlank_eq_false
    {base number : Nat}
    {text : List Char}
    (isUnsigned : IsUnsigned base text number) :
    ∀ character ∈ text, Text.isBlank character = false := by
  obtain ⟨sign, digits, sign_cases, rfl, are_digits⟩ := isUnsigned
  intro character member
  rcases List.mem_append.1 member with in_sign | in_digits
  · rcases sign_cases with rfl | rfl
    · contradiction
    · obtain rfl := List.mem_singleton.1 in_sign
      decide
  · exact Text.isBlank_of_isAlphanum (are_digits.isAlphanum character in_digits)

end Numeral

namespace IsNumeral

/-- A numeral stands for one number, so the two forms do not overlap. -/
theorem unique
    {text : List Char}
    {number other : Nat}
    (isNumeral : IsNumeral text number)
    (otherwise : IsNumeral text other) : number = other := by
  cases isNumeral with
  | decimal isUnsigned =>
      cases otherwise with
      | decimal isUnsigned_other => exact isUnsigned.unique isUnsigned_other
      | hexadecimal isMark _ => exact absurd isUnsigned (not_isUnsigned_ten_of_mark isMark _ _)
  | hexadecimal isMark isUnsigned =>
      cases otherwise with
      | decimal isUnsigned_other =>
          exact absurd isUnsigned_other (not_isUnsigned_ten_of_mark isMark _ _)
      | hexadecimal _ isUnsigned_other => exact isUnsigned.unique isUnsigned_other

/-- There are no blanks in a numeral, not even behind the mark of its base. -/
theorem isBlank_eq_false
    {text : List Char}
    {number : Nat}
    (isNumeral : IsNumeral text number) :
    ∀ character ∈ text, Text.isBlank character = false := by
  cases isNumeral with
  | decimal isUnsigned => exact isUnsigned.isBlank_eq_false
  | @hexadecimal mark digits _ isMark isUnsigned =>
      have mark_plain : Text.isBlank mark = false := by
        rcases isMark with rfl | rfl <;> decide
      exact List.forall_mem_cons.mpr
        ⟨by decide, List.forall_mem_cons.mpr ⟨mark_plain, isUnsigned.isBlank_eq_false⟩⟩

end IsNumeral

namespace Word

/-- A trimmed text is the numeral of a byte, and is read as its word, or it is reported. -/
theorem read_cases (text : String) :
    (∃ word : Word,
        IsNumeral (Text.trim text.toList) word.raw.toNat ∧ read text = .ok word) ∨
      (∀ byte : UInt8, ¬IsNumeral (Text.trim text.toList) byte.toNat) ∧
        read text = .error (.unknownName (String.ofList (Text.trim text.toList))) := by
  by_cases isNumeral : ∃ byte : UInt8, IsNumeral (Text.trim text.toList) byte.toNat
  · obtain ⟨byte, isNumeral⟩ := isNumeral
    exact Or.inl
      ⟨⟨byte⟩, isNumeral, read_of_isByteLiteral (isByteLiteral_iff_isNumeral.2 isNumeral)⟩
  · have no_numeral := not_exists.1 isNumeral
    have no_literal : byteLiteral? (Text.trim text.toList) = none :=
      byteLiteral?_eq_none_iff.2 fun byte isLiteral =>
        no_numeral byte (isByteLiteral_iff_isNumeral.1 isLiteral)
    exact Or.inr ⟨no_numeral, by simp [read, no_literal]⟩

/-- What becomes of a text, which is this one once it is trimmed, when it is read as a word. -/
structure IsDecoded (text : String) (trimmed : List Char) : Prop where
  /-- There is one way to trim a text. -/
  isTrimmed_iff : ∀ other, Text.IsTrimmed text.toList other ↔ other = trimmed
  /-- A trimmed text stands for one number at most. -/
  number_eq : ∀ number other, IsNumeral trimmed number → IsNumeral trimmed other → number = other
  /-- A text is read as a word exactly when it is a numeral of the byte. -/
  ok_iff : ∀ word, read text = .ok word ↔ IsNumeral trimmed word.raw.toNat
  /-- A text that is no numeral, or the numeral of a number that is no byte, is reported as it was
  written, and for no other reason is a text reported. -/
  error_iff : ∀ error,
    read text = .error error ↔
      error = .unknownName (String.ofList trimmed) ∧
        ∀ number, IsNumeral trimmed number → 255 < number
  /-- A text that is itself a numeral of a byte is read as the word of this byte, whatever blanks are
  put around it. -/
  read_surrounded : ∀ byte : UInt8, IsNumeral text.toList byte.toNat →
    ∀ front back : List Char,
      (∀ character ∈ front, Text.isBlank character = true) →
        (∀ character ∈ back, Text.isBlank character = true) →
          read (String.ofList (front ++ text.toList ++ back)) = .ok ⟨byte⟩

/-- Reading accepts exactly the numerals of bytes, and each of them as its byte. -/
theorem isDecoded_read (text : String) : IsDecoded text (Text.trim text.toList) where
  isTrimmed_iff other :=
    ⟨fun isTrimmed => isTrimmed.trim_eq.symm, fun equal => equal ▸ Text.isTrimmed_trim text.toList⟩
  number_eq _ _ isNumeral otherwise := isNumeral.unique otherwise
  ok_iff := by
    intro word
    rcases read_cases text with ⟨found, isNumeral, read_eq⟩ | ⟨no_numeral, read_eq⟩
    · rw [read_eq, Except.ok.injEq]
      constructor
      · rintro rfl
        exact isNumeral
      · intro isNumeral_word
        have raw_eq : found.raw = word.raw :=
          UInt8.toNat_inj.1 (isNumeral.unique isNumeral_word)
        exact Word.ext raw_eq
    · simp [read_eq, no_numeral]
  error_iff := by
    intro error
    rcases read_cases text with ⟨found, isNumeral, read_eq⟩ | ⟨no_numeral, read_eq⟩
    · rw [read_eq]
      constructor
      · exact nofun
      · rintro ⟨-, above⟩
        have number_above := above _ isNumeral
        have number_lt := found.raw.toNat_lt
        omega
    · rw [read_eq, Except.error.injEq, eq_comm, and_iff_left]
      intro number isNumeral
      by_contra within
      have number_lt : number < 256 := by omega
      apply no_numeral (UInt8.ofNat number)
      rwa [UInt8.toNat_ofNat_of_lt' number_lt]
  read_surrounded := by
    intro byte isNumeral front back front_blank back_blank
    have trimmed := Text.isTrimmed_append isNumeral.isBlank_eq_false front_blank back_blank
    apply read_of_isByteLiteral
    rw [String.toList_ofList, trimmed.trim_eq]
    exact isByteLiteral_iff_isNumeral.2 isNumeral

/-- A plus sign may follow the mark of base sixteen, and may not precede it. -/
example :
    read "\t0x+0036 " = .ok ⟨0x36⟩ ∧ read "+0x36" = .error (.unknownName "+0x36") := by
  decide +kernel

end Word
end ObjectStatus
