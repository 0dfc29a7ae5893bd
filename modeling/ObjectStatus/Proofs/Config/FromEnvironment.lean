import ObjectStatus.Proofs.Reading.Alike
import ObjectStatus.Proofs.Reading.Literal
import ObjectStatus.Proofs.Session.ConfiguredStart

/-!
# Configurations read from an environment

An environment says something about each field of a configuration in a variable of its own: the
capacity as a decimal numeral of a number of sixty-four bits, the level by its name or its digit,
and the flush mode by one of four words. A variable that says nothing of the kind leaves its field
at the default, and no variable has a say in another field.

What a variable says is stated here without the readers: its bytes are those of a text, and the text
is what is left between blanks. The readers are then shown to find exactly that.
-/

namespace ObjectStatus

/-! ## What a variable holds -/

namespace Environment

/-- The variable is set to the bytes of a text that is this one without the blanks around it. -/
def Holds
    (environment : Environment)
    (name : String)
    (trimmed : List Char) : Prop :=
  ∃ text, environment.bytes? name = some (Text.toUtf8 text) ∧ Text.IsTrimmed text.toList trimmed

theorem text?_eq_some_iff
    {environment : Environment}
    {name text : String}
    (valid : isName name = true) :
    environment.text? name = some text ↔ environment.bytes? name = some (Text.toUtf8 text) := by
  rw [text?, if_pos valid, Option.bind_eq_some_iff]
  simp only [Text.ofUtf8?_eq_some_iff, exists_eq_right]

/-- The text of a variable is a matter of its bytes, and nothing else in the environment has a say
in it. -/
theorem text?_congr
    {first second : Environment}
    {name : String}
    (same : first.bytes? name = second.bytes? name) : first.text? name = second.text? name := by
  rw [text?, text?, same]

theorem holds_iff
    {environment : Environment}
    {name : String}
    {trimmed : List Char}
    (valid : isName name = true) :
    environment.Holds name trimmed ↔
      ∃ text, environment.text? name = some text ∧ Text.trim text.toList = trimmed := by
  unfold Holds
  simp only [← text?_eq_some_iff valid]
  constructor
  · rintro ⟨text, text_eq, isTrimmed⟩
    exact ⟨text, text_eq, isTrimmed.trim_eq⟩
  · rintro ⟨text, text_eq, rfl⟩
    exact ⟨text, text_eq, Text.isTrimmed_trim text.toList⟩

/-- Nothing is left to trim from what a variable holds. -/
theorem Holds.trim_eq
    {environment : Environment}
    {name : String}
    {trimmed : List Char}
    (holds : environment.Holds name trimmed) : Text.trim trimmed = trimmed := by
  obtain ⟨text, -, isTrimmed⟩ := holds
  exact Text.trim_eq_self isTrimmed.head_plain isTrimmed.last_plain

/-- A reader finds what it accepts of what the variable holds. -/
theorem read?_eq_some_iff
    {α : Type}
    {environment : Environment}
    {reader : String → Option α}
    {name : String}
    {value : α}
    (valid : isName name = true) :
    environment.read? reader name = some value ↔
      ∃ trimmed, environment.Holds name trimmed ∧ reader (String.ofList trimmed) = some value := by
  unfold read?
  simp only [Option.bind_eq_some_iff, holds_iff valid]
  constructor
  · rintro ⟨text, text_eq, accepted⟩
    exact ⟨_, ⟨text, text_eq, rfl⟩, accepted⟩
  · rintro ⟨_, ⟨text, text_eq, rfl⟩, accepted⟩
    exact ⟨text, text_eq, accepted⟩

/-- A text without blanks is held as it was set. -/
theorem holds_set
    {text : List Char}
    (plain : ∀ character ∈ text, Text.isBlank character = false)
    (environment : Environment)
    (name : String) :
    (environment.set name (Text.toUtf8 (String.ofList text))).Holds name text := by
  have nothing : ∀ character ∈ ([] : List Char), Text.isBlank character = true := by simp
  have isTrimmed := Text.isTrimmed_append plain nothing nothing
  refine ⟨String.ofList text, bytes?_set_self _ _ _, ?_⟩
  rw [String.toList_ofList]
  simpa using isTrimmed

end Environment

/-! ## Spellings of levels -/

namespace Level

/-- The text is the name of the level in any case, or the single digit of its number. -/
def IsSpelledBy (level : Level) (text : List Char) : Prop :=
  Text.SameLetters text level.name.toList ∨ text = [Nat.digitChar level.number.toNat]

/-- Every spelling in the table is in lower case and is a name or a digit of its level. -/
theorem isSpelledBy_of_mem_spellings :
    ∀ entry ∈ spellings,
      Text.lower entry.1.toList = entry.1.toList ∧
        (Text.SameLetters entry.1.toList entry.2.name.toList ∨
          entry.1.toList = [Nat.digitChar entry.2.number.toNat]) := by
  decide

/-- A digit has no case. -/
theorem eq_of_sameLetters_digit
    {level : Level}
    {text : List Char}
    (same : Text.SameLetters text [Nat.digitChar level.number.toNat]) :
    text = [Nat.digitChar level.number.toNat] := by
  obtain ⟨character, rest, sameLetter, nothing, rfl⟩ := List.forall₂_cons_left_iff.1 same.symm
  obtain rfl := List.forall₂_nil_left_iff.1 nothing
  have caseless : (Nat.digitChar level.number.toNat).toNat < 'A'.toNat := by
    cases level <;> decide
  rw [Text.eq_of_sameLetter_of_caseless caseless sameLetter]

/-- A level is read from its spellings, whatever blanks are around them. -/
theorem read?_eq_some_iff
    {text : String}
    {level : Level} :
    read? text = some level ↔ level.IsSpelledBy (Text.trim text.toList) := by
  constructor
  · intro found
    obtain ⟨in_lower_case, spelled⟩ :=
      isSpelledBy_of_mem_spellings _ (Text.mem_of_lookUp?_eq_some found)
    rw [Text.keyword, String.toList_ofList] at in_lower_case spelled
    have same := Text.lower_eq_lower_iff.1 in_lower_case
    rcases spelled with name | digit
    · exact Or.inl (same.symm.trans name)
    · rw [digit] at same
      exact Or.inr (eq_of_sameLetters_digit same.symm)
  · unfold read? Text.lookUp? Text.keyword
    rintro (name | digit)
    · rw [Text.lower_eq_lower_iff.2 name]
      cases level <;> decide
    · rw [digit]
      cases level <;> decide

end Level

/-! ## The fields of a configuration -/

/-- The decimal digits of a number are a numeral of it. -/
theorem Numeral.isUnsigned_decimal (number : Nat) : IsUnsigned 10 (decimal number) number :=
  (isDigits_toDigits (by decide) (by decide) number).isUnsigned

namespace Config

theorem read?_capacity_eq_some_iff
    {environment : Environment}
    {number : Nat} :
    environment.read? (Environment.unsignedReader 64) capacityVariable = some number ↔
      ∃ numeral, environment.Holds capacityVariable numeral ∧
        Numeral.IsUnsigned 10 numeral number ∧ number < 2 ^ 64 := by
  rw [Environment.read?_eq_some_iff (by decide)]
  simp only [Environment.unsignedReader, String.toList_ofList, Numeral.below?_eq_some_iff,
    Nat.pow_eq]

theorem read?_level_eq_some_iff
    {environment : Environment}
    {level : Level} :
    environment.read? Level.read? Settings.levelVariable = some level ↔
      ∃ text, environment.Holds Settings.levelVariable text ∧ level.IsSpelledBy text := by
  rw [Environment.read?_eq_some_iff (by decide)]
  refine exists_congr fun text => and_congr_right fun holds => ?_
  rw [Level.read?_eq_some_iff, String.toList_ofList, holds.trim_eq]

/-- A capacity is what the numeral says, and at least one. -/
theorem logCapacity_ofEnvironment_of_holds
    {environment : Environment}
    {numeral : List Char}
    {number : Nat}
    (holds : environment.Holds capacityVariable numeral)
    (isUnsigned : Numeral.IsUnsigned 10 numeral number)
    (below : number < 2 ^ 64) : (ofEnvironment environment).logCapacity = max 1 number := by
  rw [ofEnvironment, read?_capacity_eq_some_iff.2 ⟨numeral, holds, isUnsigned, below⟩]
  rfl

/-- An environment that asks for no capacity gets the default. -/
theorem logCapacity_ofEnvironment_of_other
    {environment : Environment}
    (other : ∀ numeral number, environment.Holds capacityVariable numeral →
      Numeral.IsUnsigned 10 numeral number → 2 ^ 64 ≤ number) :
    (ofEnvironment environment).logCapacity = 256 := by
  have unread :
      environment.read? (Environment.unsignedReader 64) capacityVariable = none := by
    rw [Option.eq_none_iff_forall_ne_some]
    intro number read
    obtain ⟨numeral, holds, isUnsigned, below⟩ := read?_capacity_eq_some_iff.1 read
    exact absurd (other numeral number holds isUnsigned) (Nat.not_le_of_lt below)
  rw [ofEnvironment, unread]
  rfl

theorem logLevel_ofEnvironment_of_holds
    {environment : Environment}
    {text : List Char}
    {level : Level}
    (holds : environment.Holds Settings.levelVariable text)
    (spelled : level.IsSpelledBy text) : (ofEnvironment environment).logLevel = level := by
  rw [ofEnvironment, read?_level_eq_some_iff.2 ⟨text, holds, spelled⟩]
  rfl

/-- An environment that asks for no level gets the default. -/
theorem logLevel_ofEnvironment_of_other
    {environment : Environment}
    (other : ∀ text level, environment.Holds Settings.levelVariable text →
      ¬Level.IsSpelledBy level text) :
    (ofEnvironment environment).logLevel = .info := by
  have unread : environment.read? Level.read? Settings.levelVariable = none := by
    rw [Option.eq_none_iff_forall_ne_some]
    intro level read
    obtain ⟨text, holds, spelled⟩ := read?_level_eq_some_iff.1 read
    exact other text level holds spelled
  rw [ofEnvironment, unread]
  rfl

theorem flushLog_ofEnvironment_iff
    {environment : Environment} :
    (ofEnvironment environment).flushLog = true ↔
      ∃ text, environment.Holds Settings.flushVariable text ∧
        ∃ word ∈ ["1", "true", "yes", "on"], Text.SameLetters text word.toList := by
  rw [flushLog_ofEnvironment, Settings.requestedFlush, decide_eq_true_iff]
  unfold Settings.AsksForFlush
  have valid : Environment.isName Settings.flushVariable = true := by decide
  simp only [Environment.holds_iff valid]
  constructor
  · rintro ⟨text, text_eq, asks⟩
    exact ⟨_, ⟨text, text_eq, rfl⟩, asks⟩
  · rintro ⟨_, ⟨text, text_eq, rfl⟩, asks⟩
    exact ⟨text, text_eq, asks⟩

/-- The configuration that is read from an environment has in each field what the variable of this
field says, or the default if it says nothing that the field can hold. -/
structure IsReadFieldByField (environment : Environment) : Prop where
  /-- A decimal numeral of a number of sixty-four bits says the capacity, which is at least one. -/
  logCapacity_of_numeral : ∀ numeral number, environment.Holds capacityVariable numeral →
    Numeral.IsUnsigned 10 numeral number → number < 2 ^ 64 →
      (ofEnvironment environment).logCapacity = max 1 number
  /-- If the variable is unset, is no text, or holds anything else, a numeral of a greater number
  included, the capacity is the default. -/
  logCapacity_of_other :
    (∀ numeral number, environment.Holds capacityVariable numeral →
      Numeral.IsUnsigned 10 numeral number → 2 ^ 64 ≤ number) →
      (ofEnvironment environment).logCapacity = 256
  /-- The name of a level in any case, or its digit, says the level. -/
  logLevel_of_spelling : ∀ text level, environment.Holds Settings.levelVariable text →
    level.IsSpelledBy text → (ofEnvironment environment).logLevel = level
  /-- Anything else leaves the level at its default. -/
  logLevel_of_other :
    (∀ text level, environment.Holds Settings.levelVariable text →
      ¬Level.IsSpelledBy level text) →
      (ofEnvironment environment).logLevel = .info
  /-- One of four words in any case says that messages are flushed, and nothing else does. -/
  flushLog_iff : (ofEnvironment environment).flushLog = true ↔
    ∃ text, environment.Holds Settings.flushVariable text ∧
      ∃ word ∈ ["1", "true", "yes", "on"], Text.SameLetters text word.toList
  /-- Environments that agree on the variable of the capacity agree on the capacity. -/
  logCapacity_congr : ∀ other : Environment,
    other.bytes? capacityVariable = environment.bytes? capacityVariable →
      (ofEnvironment other).logCapacity = (ofEnvironment environment).logCapacity
  /-- Environments that agree on the variable of the level agree on the level. -/
  logLevel_congr : ∀ other : Environment,
    other.bytes? Settings.levelVariable = environment.bytes? Settings.levelVariable →
      (ofEnvironment other).logLevel = (ofEnvironment environment).logLevel
  /-- Environments that agree on the variable of the flush mode agree on the flush mode. -/
  flushLog_congr : ∀ other : Environment,
    other.bytes? Settings.flushVariable = environment.bytes? Settings.flushVariable →
      (ofEnvironment other).flushLog = (ofEnvironment environment).flushLog
  /-- Every capacity of sixty-four bits can be written down in decimal, and is read back, or as one
  if it is zero. -/
  logCapacity_set_decimal : ∀ number < 2 ^ 64,
    (ofEnvironment
        (environment.set capacityVariable
          (Text.toUtf8 (String.ofList (Numeral.decimal number))))).logCapacity =
      max 1 number

/-- Every environment is read field by field. -/
theorem isReadFieldByField (environment : Environment) : IsReadFieldByField environment where
  logCapacity_of_numeral _ _ := logCapacity_ofEnvironment_of_holds
  logCapacity_of_other := logCapacity_ofEnvironment_of_other
  logLevel_of_spelling _ _ := logLevel_ofEnvironment_of_holds
  logLevel_of_other := logLevel_ofEnvironment_of_other
  flushLog_iff := flushLog_ofEnvironment_iff
  logCapacity_congr := by
    intro other same
    simp only [ofEnvironment, Environment.read?, Environment.text?_congr same]
  logLevel_congr := by
    intro other same
    simp only [ofEnvironment, Environment.read?, Environment.text?_congr same]
  flushLog_congr := by
    intro other same
    simp only [ofEnvironment, Environment.switch, Environment.text?_congr same]
  logCapacity_set_decimal := by
    intro number below
    have isUnsigned := Numeral.isUnsigned_decimal number
    have holds := Environment.holds_set isUnsigned.isBlank_eq_false environment capacityVariable
    exact logCapacity_ofEnvironment_of_holds holds isUnsigned below

/-- A capacity that takes more than sixty-four bits is not cut down, and spoils no other field. -/
example :
    ofEnvironment
        ((Environment.empty.set capacityVariable "18446744073709551616".toUTF8.toList).set
          Settings.levelVariable " DEBUG ".toUTF8.toList) =
      ⟨256, .debug, false⟩ := by
  decide +kernel

end Config
end ObjectStatus
