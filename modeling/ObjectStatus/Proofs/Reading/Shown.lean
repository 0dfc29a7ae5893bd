import ObjectStatus.Proofs.Reading.Grammar
import ObjectStatus.Proofs.Text.WrittenNumeral
import ObjectStatus.Word.Printer

/-!
# Reading what is shown

Every word is shown by a text that is read as this word again: a code by its name, and any other
word by a literal of its byte. A shown word consists of letters and decimal digits, so nothing that
stands next to it in a line can be taken for a part of it.
-/

namespace ObjectStatus

/-! ## Letters and decimal digits -/

namespace Text

theorem bounds_of_isAlphanum
    {character : Char}
    (alphanumeric : character.isAlphanum = true) :
    '0'.toNat ≤ character.toNat ∧ character.toNat ≤ 'z'.toNat := by
  have ranges :
      ((decide ('A'.val ≤ character.val ∧ character.val ≤ 'Z'.val) ||
          (decide ('a'.val ≤ character.val) && decide (character.val ≤ 'z'.val))) ||
        (decide ('0'.val ≤ character.val) && decide (character.val ≤ '9'.val))) = true :=
    alphanumeric
  simp only [Bool.or_eq_true, Bool.and_eq_true, decide_eq_true_eq, UInt32.le_iff_toNat_le,
    Char.toNat_val, Char.reduceToNat] at ranges ⊢
  omega

/-- Letters and decimal digits are no blanks. -/
theorem isBlank_of_isAlphanum
    {character : Char}
    (alphanumeric : character.isAlphanum = true) : isBlank character = false := by
  have ranges : ∀ range ∈ blankRanges, range.last < '0'.toNat ∨ 'z'.toNat < range.first := by
    decide
  obtain ⟨lower, upper⟩ := bounds_of_isAlphanum alphanumeric
  by_contra blank
  rw [Bool.not_eq_false, isBlank, CharRange.someHolds_iff] at blank
  obtain ⟨range, member, first_le, le_last⟩ := blank
  rcases ranges range member with before | behind
  · omega
  · omega

/-- There is nothing to trim from letters and decimal digits. -/
theorem trim_of_isAlphanum
    {text : List Char}
    (alphanumeric : ∀ character ∈ text, character.isAlphanum = true) : trim text = text := by
  have plain : ∀ character ∈ text, isBlank character = false :=
    fun character member => isBlank_of_isAlphanum (alphanumeric character member)
  have nothing : ∀ character ∈ ([] : List Char), isBlank character = true := by simp
  simpa using (isTrimmed_append plain nothing nothing).trim_eq

end Text

/-! ## Names and literals -/

theorem Code.isAlphanum_name (code : Code) :
    ∀ character ∈ code.name.toList, character.isAlphanum = true := by
  have every : code.name.toList.all Char.isAlphanum = true := by cases code <;> rfl
  exact List.all_eq_true.1 every

/-- The canonical name of a code names it. -/
theorem Code.isNamedBy_name (code : Code) : code.IsNamedBy code.name.toList :=
  ⟨"", by decide, Text.upper_eq_upper_iff.1 rfl⟩

namespace Word

/-- The hexadecimal text of a word is the mark of base sixteen and the digits of its byte. -/
theorem exists_toList_hex_eq (word : Word) :
    ∃ digits,
      word.hex.toList = '0' :: 'x' :: digits ∧ Numeral.IsDigits 16 digits word.raw.toNat := by
  refine ⟨Numeral.padded 16 2 word.raw.toNat, ?_, ?_⟩
  · rw [hex, String.toList_ofList, Numeral.hexByte]
  · exact Numeral.isDigits_padded (by decide) (le_refl 16) 2 word.raw.toNat

theorem isAlphanum_hex (word : Word) :
    ∀ character ∈ word.hex.toList, character.isAlphanum = true := by
  obtain ⟨digits, hex_eq, are_digits⟩ := word.exists_toList_hex_eq
  rw [hex_eq]
  exact List.forall_mem_cons.mpr
    ⟨by decide, List.forall_mem_cons.mpr ⟨by decide, are_digits.isAlphanum⟩⟩

/-- So it is a literal of the byte. -/
theorem isByteLiteral_hex (word : Word) : IsByteLiteral word.hex.toList word.raw := by
  obtain ⟨digits, hex_eq, are_digits⟩ := word.exists_toList_hex_eq
  rw [hex_eq]
  exact .hexadecimal (Or.inl rfl) are_digits.isUnsigned

@[simp] theorem text_word (code : Code) : code.word.text = code.name := by
  rw [text, known_word]

theorem text_of_known_eq_none
    {word : Word}
    (unnamed : word.known = none) : word.text = word.hex := by
  rw [text, unnamed]

/-- A word is shown by letters and decimal digits. -/
theorem isAlphanum_text (word : Word) :
    ∀ character ∈ word.text.toList, character.isAlphanum = true := by
  unfold text
  cases word.known with
  | some code => exact code.isAlphanum_name
  | none => exact word.isAlphanum_hex

end Word

/-! ## Readings -/

/-- A text that names a code is read as this code. -/
theorem Code.read_of_isNamedBy
    {code : Code}
    {text : String}
    (named : code.IsNamedBy (Text.trim text.toList)) : read text = .ok code := by
  simp [read, ofName?_eq_some_iff.2 named]

/-- A literal is read as the code of its byte, if that has one. -/
theorem Code.read_of_isByteLiteral
    {byte : UInt8}
    {text : String}
    (isLiteral : IsByteLiteral (Text.trim text.toList) byte) : read text = ofByte byte := by
  have unnamed : ofName? (Text.trim text.toList) = none :=
    ofName?_eq_none_iff.2 fun _ named => named.not_isByteLiteral byte isLiteral
  simp [read, unnamed, byteLiteral?_eq_some_iff.2 isLiteral]

theorem Word.read_of_isByteLiteral
    {byte : UInt8}
    {text : String}
    (isLiteral : IsByteLiteral (Text.trim text.toList) byte) : read text = .ok ⟨byte⟩ := by
  simp [read, byteLiteral?_eq_some_iff.2 isLiteral]

/-- What a word is read as: its code if it has one, and else the word itself. -/
def Word.reading (word : Word) : Reading :=
  match word.known with
  | some code => .code code
  | none => .word word

namespace Reading

/-- The word that was read, whether as a code or as it is. -/
def toWord : Reading → Word
  | .code found => found.word
  | .word found => found

/-- The text by which a reading is shown. -/
def text : Reading → String
  | .code found => found.name
  | .word found => found.hex

/-- A reading is shown by letters and decimal digits. -/
theorem isAlphanum_text (reading : Reading) :
    ∀ character ∈ reading.text.toList, character.isAlphanum = true := by
  cases reading with
  | code found => exact found.isAlphanum_name
  | word found => exact found.isAlphanum_hex

/-- A literal is read as the word of its byte. -/
theorem ofText?_of_isByteLiteral
    {byte : UInt8}
    {text : String}
    (isLiteral : IsByteLiteral (Text.trim text.toList) byte) :
    ofText? text = some (Word.reading ⟨byte⟩) := by
  unfold ofText? Word.reading Word.known
  rw [Code.read_of_isByteLiteral isLiteral, Word.read_of_isByteLiteral isLiteral, Code.ofByte]
  cases Code.ofValue? byte <;> rfl

/-- A name is read as its code. -/
theorem ofText?_of_isNamedBy
    {code : Code}
    {text : String}
    (named : code.IsNamedBy (Text.trim text.toList)) : ofText? text = some (.code code) := by
  rw [ofText?, Code.read_of_isNamedBy named]

/-- What is neither a name nor a literal stands for nothing. -/
theorem ofText?_eq_none
    {text : String}
    (unnamed : ∀ code : Code, ¬code.IsNamedBy (Text.trim text.toList))
    (no_literal : ∀ byte, ¬IsByteLiteral (Text.trim text.toList) byte) :
    ofText? text = none := by
  simp [ofText?, Code.read, Word.read, Code.ofName?_eq_none_iff.2 unnamed,
    byteLiteral?_eq_none_iff.2 no_literal]

end Reading

namespace Word

@[simp] theorem reading_word (code : Code) : code.word.reading = .code code := by
  rw [reading, known_word]

@[simp] theorem toWord_reading (word : Word) : word.reading.toWord = word := by
  unfold reading
  cases known_eq : word.known with
  | some code => exact (known_eq_some_iff.1 known_eq).symm
  | none => rfl

@[simp] theorem text_reading (word : Word) : word.reading.text = word.text := by
  unfold reading text
  cases word.known <;> rfl

/-- A shown word is read as it was. -/
theorem ofText?_text (word : Word) : Reading.ofText? word.text = some word.reading := by
  have trimmed := Text.trim_of_isAlphanum word.isAlphanum_text
  cases known_eq : word.known with
  | some code =>
      obtain rfl := known_eq_some_iff.1 known_eq
      have named : code.IsNamedBy (Text.trim code.word.text.toList) := by
        rw [trimmed, text_word]
        exact code.isNamedBy_name
      rw [Reading.ofText?_of_isNamedBy named, reading_word]
  | none =>
      have literal : IsByteLiteral (Text.trim word.text.toList) word.raw := by
        rw [trimmed, text_of_known_eq_none known_eq]
        exact word.isByteLiteral_hex
      exact Reading.ofText?_of_isByteLiteral literal

end Word

namespace Reading

/-- A text is never read as a word that is a code. -/
theorem reading_toWord
    {text : String}
    {reading : Reading}
    (read : ofText? text = some reading) : reading.toWord.reading = reading := by
  rcases Code.read_cases text with ⟨code, named, -⟩ | ⟨byte, isLiteral, -⟩ |
    ⟨unnamed, no_literal, -⟩
  · rw [ofText?_of_isNamedBy named] at read
    obtain rfl := Option.some.inj read
    exact Word.reading_word code
  · rw [ofText?_of_isByteLiteral isLiteral] at read
    obtain rfl := Option.some.inj read
    rw [Word.toWord_reading]
  · rw [ofText?_eq_none unnamed no_literal] at read
    contradiction

/-- Whatever a text was read as is shown by a text that is read as the same. -/
theorem ofText?_text
    {text : String}
    {reading : Reading}
    (read : ofText? text = some reading) : ofText? reading.text = some reading := by
  have shown := Word.ofText?_text reading.toWord
  rwa [← Word.text_reading, reading_toWord read] at shown

end Reading
end ObjectStatus
