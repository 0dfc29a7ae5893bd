import Mathlib.Data.List.Basic
import ObjectStatus.Proofs.Text.Numeral
import ObjectStatus.Proofs.Text.Spelling
import ObjectStatus.Reading

/-!
# The grammar of codes

The text of a code is its name, in any case and with at most one label in front, or a byte literal
of its value. This module states the two forms without the functions that read them and shows that
every text, once trimmed, is one of three things: the text of a code, the literal of a byte that is
no code, or neither. No text has both forms, so the order in which they are tried does not matter.
-/

namespace ObjectStatus

/-- The text is a byte literal and stands for this byte. -/
inductive IsByteLiteral : List Char → UInt8 → Prop
  /-- A decimal numeral. -/
  | decimal {text : List Char} {byte : UInt8} :
      Numeral.IsUnsigned 10 text byte.toNat → IsByteLiteral text byte
  /-- A hexadecimal numeral after its mark. -/
  | hexadecimal {mark : Char} {text : List Char} {byte : UInt8} :
      mark = 'x' ∨ mark = 'X' →
      Numeral.IsUnsigned 16 text byte.toNat →
      IsByteLiteral ('0' :: mark :: text) byte

/-- What may stand in front of a name: nothing, or one of the two labels. -/
def Code.optionalLabels : List String := ["", "STATUS_", "MPR_STATUS_"]

/-- The text is the name of the code, with no label or with one of the two labels in front, in any
case. -/
def Code.IsNamedBy (code : Code) (text : List Char) : Prop :=
  ∃ label ∈ optionalLabels,
    Text.SameLetters text (label.toList ++ code.name.toList)

/-! ## Byte literals -/

theorem map_ofNat_below?_eq_some_iff
    {base : Nat}
    {text : List Char}
    {byte : UInt8} :
    (Numeral.below? 256 base text).map UInt8.ofNat = some byte ↔
      Numeral.IsUnsigned base text byte.toNat := by
  rw [Option.map_eq_some_iff]
  constructor
  · rintro ⟨number, read, rfl⟩
    obtain ⟨isUnsigned, below⟩ := Numeral.below?_eq_some_iff.1 read
    rwa [UInt8.toNat_ofNat_of_lt' below]
  · intro isUnsigned
    exact ⟨byte.toNat, Numeral.below?_eq_some_iff.2 ⟨isUnsigned, byte.toNat_lt⟩,
      UInt8.ofNat_toNat⟩

/-- What begins with the mark of base sixteen is no decimal numeral. -/
theorem not_isUnsigned_ten_of_mark
    {mark : Char}
    (isMark : mark = 'x' ∨ mark = 'X')
    (text : List Char)
    (number : Nat) : ¬Numeral.IsUnsigned 10 ('0' :: mark :: text) number := by
  rintro ⟨sign, digits, rfl | rfl, text_eq, -, values, are_digits, -⟩
  · rw [List.nil_append] at text_eq
    subst digits
    obtain ⟨_, rest, -, rest_are_digits, rfl⟩ := List.forall₂_cons_left_iff.1 are_digits
    obtain ⟨value, _, is_digit, -, rfl⟩ := List.forall₂_cons_left_iff.1 rest_are_digits
    rcases isMark with rfl | rfl
    · exact Numeral.not_isDigit (by decide) 10 value is_digit
    · exact Numeral.not_isDigit (by decide) 10 value is_digit
  · simp at text_eq

/-- A byte literal is read as the byte that it stands for. -/
theorem byteLiteral?_eq_some_iff
    {text : List Char}
    {byte : UInt8} :
    byteLiteral? text = some byte ↔ IsByteLiteral text byte := by
  constructor
  · intro read
    unfold byteLiteral? at read
    split at read
    · exact .hexadecimal (Or.inl rfl) (map_ofNat_below?_eq_some_iff.1 read)
    · exact .hexadecimal (Or.inr rfl) (map_ofNat_below?_eq_some_iff.1 read)
    · exact .decimal (map_ofNat_below?_eq_some_iff.1 read)
  · intro isLiteral
    cases isLiteral with
    | decimal isUnsigned =>
        unfold byteLiteral?
        split
        · exact absurd isUnsigned (not_isUnsigned_ten_of_mark (Or.inl rfl) _ _)
        · exact absurd isUnsigned (not_isUnsigned_ten_of_mark (Or.inr rfl) _ _)
        · exact map_ofNat_below?_eq_some_iff.2 isUnsigned
    | hexadecimal isMark isUnsigned =>
        rcases isMark with rfl | rfl
        · exact map_ofNat_below?_eq_some_iff.2 isUnsigned
        · exact map_ofNat_below?_eq_some_iff.2 isUnsigned

theorem byteLiteral?_eq_none_iff
    {text : List Char} : byteLiteral? text = none ↔ ∀ byte, ¬IsByteLiteral text byte := by
  simp only [Option.eq_none_iff_forall_ne_some, ne_eq, byteLiteral?_eq_some_iff]

/-! ## Names -/

namespace Code

/-- A code is found again from its name. -/
theorem find?_name_eq_some_iff
    {name : List Char}
    {code : Code} :
    (all.find? fun other => other.name.toList == name) = some code ↔
      code.name.toList = name := by
  constructor
  · intro found
    simpa using List.find?_some found
  · rintro rfl
    cases code <;> decide

/-- A name is found again behind any label. -/
theorem dropLabel_label_append
    (code : Code)
    {label : String}
    (member : label ∈ optionalLabels) :
    dropLabel (label.toList ++ code.name.toList) = code.name.toList := by
  simp only [optionalLabels, List.mem_cons, List.not_mem_nil, or_false] at member
  rcases member with rfl | rfl | rfl <;> cases code <;> decide

/-- What is dropped is a label, if anything is. -/
theorem exists_label_append (text : List Char) :
    ∃ label ∈ optionalLabels, text = label.toList ++ dropLabel text := by
  unfold dropLabel
  cases found : labels.findSome? fun label => label.isPrefixOf? text with
  | none => exact ⟨"", by decide, rfl⟩
  | some rest =>
      obtain ⟨label, member, prefixed⟩ := List.exists_of_findSome?_eq_some found
      have text_eq : label ++ rest = text := List.append_eq_of_isPrefixOf?_eq_some prefixed
      simp only [labels, List.mem_cons, List.not_mem_nil, or_false] at member
      rcases member with rfl | rfl
      · exact ⟨"MPR_STATUS_", by decide, text_eq.symm⟩
      · exact ⟨"STATUS_", by decide, text_eq.symm⟩

/-- Labels and names are in upper case. -/
theorem upper_label_append
    (code : Code)
    {label : String}
    (member : label ∈ optionalLabels) :
    Text.upper (label.toList ++ code.name.toList) = label.toList ++ code.name.toList := by
  simp only [optionalLabels, List.mem_cons, List.not_mem_nil, or_false] at member
  rcases member with rfl | rfl | rfl <;> cases code <;> decide

/-- A name is read as the code that it names. -/
theorem ofName?_eq_some_iff
    {text : List Char}
    {code : Code} : ofName? text = some code ↔ code.IsNamedBy text := by
  unfold ofName?
  rw [find?_name_eq_some_iff]
  constructor
  · intro name_eq
    obtain ⟨label, member, upper_eq⟩ := exists_label_append (Text.upper text)
    refine ⟨label, member, ?_⟩
    rw [← Text.upper_eq_upper_iff, upper_label_append code member, name_eq, ← upper_eq]
  · rintro ⟨label, member, same⟩
    rw [← Text.upper_eq_upper_iff, upper_label_append code member] at same
    rw [same, dropLabel_label_append code member]

theorem ofName?_eq_none_iff
    {text : List Char} : ofName? text = none ↔ ∀ code : Code, ¬code.IsNamedBy text := by
  simp only [Option.eq_none_iff_forall_ne_some, ne_eq, ofName?_eq_some_iff]

/-! ## Both -/

theorem exists_cons_label_append
    (code : Code)
    {label : String}
    (member : label ∈ optionalLabels) :
    ∃ first rest,
      label.toList ++ code.name.toList = first :: rest ∧ 'A'.toNat ≤ first.toNat := by
  simp only [optionalLabels, List.mem_cons, List.not_mem_nil, or_false] at member
  rcases member with rfl | rfl | rfl <;> cases code <;> exact ⟨_, _, rfl, by decide⟩

/-- A name begins with a letter. -/
theorem IsNamedBy.exists_head
    {code : Code}
    {text : List Char}
    (named : code.IsNamedBy text) :
    ∃ character ∈ text.head?, 'A'.toNat ≤ character.toNat := by
  obtain ⟨label, member, same⟩ := named
  obtain ⟨first, rest, spelled, above⟩ := exists_cons_label_append code member
  rw [spelled] at same
  obtain ⟨character, _, sameLetter, -, rfl⟩ := List.forall₂_cons_right_iff.1 same
  refine ⟨character, rfl, ?_⟩
  rcases sameLetter with rfl | ⟨capital, -, -⟩ | ⟨-, -, shifted⟩
  · exact above
  · exact capital
  · omega

/-- A byte literal begins with a plus sign or a decimal digit. -/
theorem exists_head_of_isByteLiteral
    {text : List Char}
    {byte : UInt8}
    (isLiteral : IsByteLiteral text byte) :
    ∃ character ∈ text.head?, character.toNat < 'A'.toNat := by
  cases isLiteral with
  | decimal isUnsigned =>
      rcases isUnsigned.head?_cases with plus | ⟨character, value, head_eq, is_digit⟩
      · exact ⟨'+', plus, by decide⟩
      · exact ⟨character, head_eq, is_digit.toNat_lt⟩
  | hexadecimal _ _ => exact ⟨'0', rfl, by decide⟩

/-- No text is both the name of a code and a byte literal. -/
theorem IsNamedBy.not_isByteLiteral
    {code : Code}
    {text : List Char}
    (named : code.IsNamedBy text)
    (byte : UInt8) : ¬IsByteLiteral text byte := by
  intro isLiteral
  obtain ⟨letter, letter_mem, above⟩ := named.exists_head
  obtain ⟨first, first_mem, below⟩ := exists_head_of_isByteLiteral isLiteral
  obtain rfl : letter = first := Option.some.inj (letter_mem.symm.trans first_mem)
  omega

/-- A trimmed text is the name of a code, or a byte literal, or neither, and is read as what
it is. -/
theorem read_cases (text : String) :
    (∃ code, code.IsNamedBy (Text.trim text.toList) ∧ read text = .ok code) ∨
      (∃ byte, IsByteLiteral (Text.trim text.toList) byte ∧ read text = ofByte byte) ∨
        (∀ code : Code, ¬code.IsNamedBy (Text.trim text.toList)) ∧
          (∀ byte, ¬IsByteLiteral (Text.trim text.toList) byte) ∧
            read text = .error (.unknownName (String.ofList (Text.trim text.toList))) := by
  unfold read
  cases named : ofName? (Text.trim text.toList) with
  | some code => exact Or.inl ⟨code, ofName?_eq_some_iff.1 named, by simp [named]⟩
  | none =>
      cases literal : byteLiteral? (Text.trim text.toList) with
      | some byte =>
          refine Or.inr (Or.inl ⟨byte, byteLiteral?_eq_some_iff.1 literal, ?_⟩)
          simp [named, literal]
      | none =>
          refine Or.inr (Or.inr ⟨?_, ?_, by simp [named, literal]⟩)
          · intro code code_named
            simp [ofName?_eq_some_iff.2 code_named] at named
          · intro byte isLiteral
            simp [byteLiteral?_eq_some_iff.2 isLiteral] at literal

/-- A text names one code. -/
theorem IsNamedBy.isNamedBy_iff
    {code other : Code}
    {text : List Char}
    (named : code.IsNamedBy text) : other.IsNamedBy text ↔ other = code := by
  rw [← ofName?_eq_some_iff, ofName?_eq_some_iff.2 named, Option.some.injEq, eq_comm]

/-- A literal stands for one byte. -/
theorem isByteLiteral_iff_eq
    {byte other : UInt8}
    {text : List Char}
    (isLiteral : IsByteLiteral text byte) : IsByteLiteral text other ↔ other = byte := by
  rw [← byteLiteral?_eq_some_iff, byteLiteral?_eq_some_iff.2 isLiteral, Option.some.injEq, eq_comm]

theorem ofByte_eq_ok_iff
    {byte : UInt8}
    {code : Code} : ofByte byte = .ok code ↔ code.value = byte := by
  rw [← ofValue?_eq_some_iff]
  unfold ofByte
  cases ofValue? byte <;> simp

theorem ofByte_eq_error_iff
    {byte : UInt8}
    {error : Error} :
    ofByte byte = .error error ↔ error = .unknownValue byte ∧ ∀ code : Code, code.value ≠ byte := by
  simp only [ne_eq, ← ofValue?_eq_some_iff]
  unfold ofByte
  cases ofValue? byte <;> simp [eq_comm]

/-- What becomes of a text, which is this one once it is trimmed, when it is read as a code. -/
structure IsClassified (text : String) (trimmed : List Char) : Prop where
  /-- There is one way to trim a text. -/
  isTrimmed_iff : ∀ other, Text.IsTrimmed text.toList other ↔ other = trimmed
  /-- A text is read as a code exactly when it is the name of the code or a byte literal of its
  value. -/
  ok_iff : ∀ code,
    read text = .ok code ↔ code.IsNamedBy trimmed ∨ IsByteLiteral trimmed code.value
  /-- A byte is reported exactly when the text is a literal of it and it is no code. -/
  unknownValue_iff : ∀ byte,
    read text = .error (.unknownValue byte) ↔
      IsByteLiteral trimmed byte ∧ ∀ code : Code, code.value ≠ byte
  /-- Every other text is reported itself, as it was written. -/
  unknownName_of_other :
    (∀ code, read text ≠ .ok code) →
      (∀ byte, read text ≠ .error (.unknownValue byte)) →
        read text = .error (.unknownName (String.ofList trimmed))
  /-- That is a text which is neither the name of a code nor a byte literal. -/
  unknownName_iff : ∀ name,
    read text = .error (.unknownName name) ↔
      name = String.ofList trimmed ∧
        (∀ code : Code, ¬code.IsNamedBy trimmed) ∧ ∀ byte, ¬IsByteLiteral trimmed byte
  /-- No text is both. -/
  not_both : ∀ (other : List Char) (code : Code) (byte : UInt8),
    ¬(code.IsNamedBy other ∧ IsByteLiteral other byte)

/-- Reading accepts exactly the texts of codes and says of every other text what it is. -/
theorem isClassified_read (text : String) :
    IsClassified text (Text.trim text.toList) where
  isTrimmed_iff := by
    intro other
    constructor
    · intro isTrimmed
      exact isTrimmed.trim_eq.symm
    · rintro rfl
      exact Text.isTrimmed_trim text.toList
  ok_iff := by
    intro code
    rcases read_cases text with ⟨other, named, read_eq⟩ | ⟨byte, isLiteral, read_eq⟩ |
      ⟨unnamed, noLiteral, read_eq⟩
    · simp [read_eq, named.isNamedBy_iff, named.not_isByteLiteral, eq_comm]
    · have unnamed : ¬code.IsNamedBy (Text.trim text.toList) :=
        fun named => named.not_isByteLiteral byte isLiteral
      simp [read_eq, ofByte_eq_ok_iff, unnamed, isByteLiteral_iff_eq isLiteral]
    · simp [read_eq, unnamed, noLiteral]
  unknownValue_iff := by
    intro byte
    rcases read_cases text with ⟨other, named, read_eq⟩ | ⟨other, isLiteral, read_eq⟩ |
      ⟨unnamed, noLiteral, read_eq⟩
    · simp [read_eq, named.not_isByteLiteral]
    · simp only [read_eq, ofByte_eq_error_iff, isByteLiteral_iff_eq isLiteral,
        Error.unknownValue.injEq, and_congr_right_iff]
      rintro rfl
      rfl
    · simp [read_eq, noLiteral]
  unknownName_of_other := by
    intro no_code no_byte
    rcases read_cases text with ⟨code, -, read_eq⟩ | ⟨byte, -, read_eq⟩ | ⟨-, -, read_eq⟩
    · exact absurd read_eq (no_code code)
    · cases result : ofByte byte with
      | ok code => exact absurd (read_eq.trans result) (no_code code)
      | error error =>
          obtain ⟨rfl, -⟩ := ofByte_eq_error_iff.1 result
          exact absurd (read_eq.trans result) (no_byte byte)
    · exact read_eq
  unknownName_iff := by
    intro name
    rcases read_cases text with ⟨code, named, read_eq⟩ | ⟨byte, isLiteral, read_eq⟩ |
      ⟨unnamed, noLiteral, read_eq⟩
    · have some_named : ∃ code : Code, code.IsNamedBy (Text.trim text.toList) := ⟨code, named⟩
      simp [read_eq, some_named]
    · have some_literal : ∃ byte, IsByteLiteral (Text.trim text.toList) byte := ⟨byte, isLiteral⟩
      simp [read_eq, ofByte_eq_error_iff, some_literal]
    · simp [read_eq, unnamed, noLiteral, eq_comm]
  not_both := by
    rintro other code byte ⟨named, isLiteral⟩
    exact named.not_isByteLiteral byte isLiteral

end Code
end ObjectStatus
