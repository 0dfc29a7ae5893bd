import ObjectStatus.Proofs.Reading.Literal

/-!
# Agreement of the readers

A text may be read as a code, as a word, or as whichever of the two it stands for. The three readers
go through the text on their own and never see what another one made of it. A trimmed text is still
one of four things, a literal of the value of a code, a literal of another byte, a name, or none of
these, and which one it is settles all three answers at once, the reported errors included.
-/

namespace ObjectStatus
namespace Reading

/-- What a trimmed text is read as by the reader of codes, the reader of words, and the reader of
both. -/
inductive Agreement (trimmed : List Char) :
    Except Error Code → Except Error Word → Option Reading → Prop
  /-- The text is a literal of the value of a code. -/
  | value {code : Code} :
      IsByteLiteral trimmed code.value →
      Agreement trimmed (.ok code) (.ok code.word) (some (.code code))
  /-- The text is a literal of a byte that is the value of no code. -/
  | byte {byte : UInt8} :
      IsByteLiteral trimmed byte →
      (∀ code : Code, code.value ≠ byte) →
      Agreement trimmed (.error (.unknownValue byte)) (.ok ⟨byte⟩) (some (.word ⟨byte⟩))
  /-- The text is the name of a code, and so it is no literal. -/
  | name {code : Code} :
      code.IsNamedBy trimmed →
      Agreement trimmed (.ok code) (.error (.unknownName (String.ofList trimmed)))
        (some (.code code))
  /-- The text is neither a name nor a literal. -/
  | nothing :
      (∀ code : Code, ¬code.IsNamedBy trimmed) →
      (∀ byte, ¬IsByteLiteral trimmed byte) →
      Agreement trimmed (.error (.unknownName (String.ofList trimmed)))
        (.error (.unknownName (String.ofList trimmed))) none

/-- A text that is no literal is reported by the reader of words. -/
theorem word_read_eq_error
    {text : String}
    (no_literal : ∀ byte, ¬IsByteLiteral (Text.trim text.toList) byte) :
    Word.read text = .error (.unknownName (String.ofList (Text.trim text.toList))) := by
  simp [Word.read, byteLiteral?_eq_none_iff.2 no_literal]

/-- The three readers agree on what a text is. -/
theorem agreement (text : String) :
    Agreement (Text.trim text.toList) (Code.read text) (Word.read text) (ofText? text) := by
  rcases Code.read_cases text with ⟨code, named, code_eq⟩ | ⟨byte, isLiteral, code_eq⟩ |
    ⟨unnamed, no_literal, code_eq⟩
  · rw [code_eq, word_read_eq_error named.not_isByteLiteral, ofText?_of_isNamedBy named]
    exact .name named
  · rw [code_eq, Word.read_of_isByteLiteral isLiteral, ofText?_of_isByteLiteral isLiteral]
    cases known_eq : Code.ofValue? byte with
    | some code =>
        obtain rfl := Code.ofValue?_eq_some_iff.1 known_eq
        rw [Code.ofByte_eq_ok_iff.2 rfl]
        change Agreement _ _ (.ok code.word) (some code.word.reading)
        rw [Word.reading_word]
        exact .value isLiteral
    | none =>
        have no_code : ∀ code : Code, code.value ≠ byte := by
          rintro code rfl
          simp at known_eq
        rw [Code.ofByte_eq_error_iff.2 ⟨rfl, no_code⟩, Word.reading, Word.known, known_eq]
        exact .byte isLiteral no_code
  · rw [code_eq, word_read_eq_error no_literal, ofText?_eq_none unnamed no_literal]
    exact .nothing unnamed no_literal

namespace Agreement

variable
  {trimmed : List Char}
  {readCode : Except Error Code}
  {readWord : Except Error Word}
  {reading : Option Reading}

/-- A word with a code is read as the code by the other two. -/
theorem of_known
    (agreement : Agreement trimmed readCode readWord reading)
    {word : Word}
    {code : Code}
    (read : readWord = .ok word)
    (known : word.known = some code) :
    readCode = .ok code ∧ reading = some (.code code) := by
  obtain rfl := Word.known_eq_some_iff.1 known
  cases agreement with
  | @value other isLiteral =>
      have same : other = code := by
        by_contra different
        exact Code.word_ne_word different (Except.ok.inj read)
      subst same
      exact ⟨rfl, rfl⟩
  | byte isLiteral no_code =>
      obtain rfl := congrArg Word.raw (Except.ok.inj read)
      exact absurd rfl (no_code code)
  | name named => contradiction
  | nothing unnamed no_literal => contradiction

/-- A word without a code is reported by its byte, and stands for itself. -/
theorem of_unknown
    (agreement : Agreement trimmed readCode readWord reading)
    {word : Word}
    (read : readWord = .ok word)
    (unknown : word.known = none) :
    readCode = .error (.unknownValue word.raw) ∧ reading = some (.word word) := by
  cases agreement with
  | value isLiteral =>
      obtain rfl := Except.ok.inj read
      simp at unknown
  | byte isLiteral no_code =>
      obtain rfl := Except.ok.inj read
      exact ⟨rfl, rfl⟩
  | name named => contradiction
  | nothing unnamed no_literal => contradiction

/-- A text that is no word is a name, or all three readers refuse it, two of them with the same
error. -/
theorem of_refused
    (agreement : Agreement trimmed readCode readWord reading)
    {error : Error}
    (refused : readWord = .error error) :
    error = .unknownName (String.ofList trimmed) ∧
      ((∃ code : Code,
          code.IsNamedBy trimmed ∧ readCode = .ok code ∧ reading = some (.code code)) ∨
        readCode = .error error ∧ reading = none) := by
  cases agreement with
  | value isLiteral => contradiction
  | byte isLiteral no_code => contradiction
  | @name code named => exact ⟨(Except.error.inj refused).symm, Or.inl ⟨code, named, rfl, rfl⟩⟩
  | nothing unnamed no_literal =>
      obtain rfl := Except.error.inj refused
      exact ⟨rfl, Or.inr ⟨rfl, rfl⟩⟩

/-- Nothing is taken for a word that is a code. -/
theorem known_eq_none
    (agreement : Agreement trimmed readCode readWord reading)
    {word : Word}
    (read : reading = some (.word word)) : word.known = none := by
  cases agreement with
  | value isLiteral => simp at read
  | @byte byte isLiteral no_code =>
      obtain rfl := Reading.word.inj (Option.some.inj read)
      rw [Option.eq_none_iff_forall_ne_some]
      intro code known
      have raw_eq := congrArg Word.raw (Word.known_eq_some_iff.1 known)
      exact no_code code raw_eq.symm
  | name named => simp at read
  | nothing unnamed no_literal => contradiction

/-- A text stands for something exactly if it is read as a code or as a word. -/
theorem isSome_iff
    (agreement : Agreement trimmed readCode readWord reading) :
    reading.isSome = true ↔
      (∃ code, readCode = .ok code) ∨ ∃ word, readWord = .ok word := by
  cases agreement <;> simp

/-- A byte is reported exactly if the text is read as a word with this byte and without a code. -/
theorem unknownValue_iff
    (agreement : Agreement trimmed readCode readWord reading)
    {byte : UInt8} :
    readCode = .error (.unknownValue byte) ↔
      readWord = .ok ⟨byte⟩ ∧ Word.known ⟨byte⟩ = none := by
  constructor
  · intro reported
    cases agreement with
    | value isLiteral => contradiction
    | byte isLiteral no_code =>
        obtain rfl := Error.unknownValue.inj (Except.error.inj reported)
        exact ⟨rfl, Agreement.known_eq_none (.byte isLiteral no_code) rfl⟩
    | name named => contradiction
    | nothing unnamed no_literal => simp at reported
  · rintro ⟨read, unknown⟩
    exact (agreement.of_unknown read unknown).1

end Agreement

/-- The three readers agree on a text, which is this one once it is trimmed. -/
structure IsAgreedOn (text : String) (trimmed : List Char) : Prop where
  /-- There is one way to trim a text. -/
  isTrimmed_iff : ∀ other, Text.IsTrimmed text.toList other ↔ other = trimmed
  /-- A text that is read as a word with a code is read as this code and stands for it. -/
  of_known : ∀ word code, Word.read text = .ok word → word.known = some code →
    Code.read text = .ok code ∧ ofText? text = some (.code code)
  /-- A text that is read as a word without a code is reported by its byte where a code is wanted,
  and stands for the word. -/
  of_unknown : ∀ word, Word.read text = .ok word → word.known = none →
    Code.read text = .error (.unknownValue word.raw) ∧ ofText? text = some (.word word)
  /-- A text that is not read as a word is reported as it was written. It is the name of the code
  that it is read as and stands for, or else it is reported in the same way where a code is wanted
  and stands for nothing. -/
  of_refused : ∀ error, Word.read text = .error error →
    error = .unknownName (String.ofList trimmed) ∧
      ((∃ code : Code, code.IsNamedBy trimmed ∧
          Code.read text = .ok code ∧ ofText? text = some (.code code)) ∨
        Code.read text = .error error ∧ ofText? text = none)
  /-- No text stands for a word that is a code. -/
  known_eq_none : ∀ word, ofText? text = some (.word word) → word.known = none
  /-- A text stands for something exactly if one of the other two readers accepts it. -/
  isSome_iff : (ofText? text).isSome = true ↔
    (∃ code, Code.read text = .ok code) ∨ ∃ word, Word.read text = .ok word
  /-- Where a code is wanted, a byte is reported exactly if the text is read as the word of this
  byte and the word has no code. -/
  unknownValue_iff : ∀ byte, Code.read text = .error (.unknownValue byte) ↔
    Word.read text = .ok ⟨byte⟩ ∧ Word.known ⟨byte⟩ = none

/-- The readers agree on every text. -/
theorem isAgreedOn (text : String) : IsAgreedOn text (Text.trim text.toList) where
  isTrimmed_iff _ :=
    ⟨fun isTrimmed => isTrimmed.trim_eq.symm, fun equal => equal ▸ Text.isTrimmed_trim text.toList⟩
  of_known _ _ := (agreement text).of_known
  of_unknown _ := (agreement text).of_unknown
  of_refused _ := (agreement text).of_refused
  known_eq_none _ := (agreement text).known_eq_none
  isSome_iff := (agreement text).isSome_iff
  unknownValue_iff _ := (agreement text).unknownValue_iff

/-- A label may stand in front of a name and not in front of a literal. -/
example :
    ofText? " status_Ready" = some (.code .ready) ∧ ofText? "0X36" = some (.code .ready) ∧
      ofText? "0x37" = some (.word ⟨0x37⟩) ∧ ofText? "STATUS_0x36" = none := by
  decide +kernel

end Reading
end ObjectStatus
