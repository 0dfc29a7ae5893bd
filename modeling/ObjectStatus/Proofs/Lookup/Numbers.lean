import ObjectStatus.Proofs.Lookup.Names
import ObjectStatus.Proofs.Word.Inclusion

/-!
# Lookups by number

A caller that has only 32-bit numbers can ask whether a number is a code, what its name is, how far
the word with a number has come, and whether it has come as far as some code. The answers go
together: they are about the same codes and the same bits, and no answer about a number that is no
byte is the answer about a byte into which it could be cut down.
-/

namespace ObjectStatus

/-! ## Codes of numbers -/

namespace Code

theorem ofInt_natCast (byte : UInt8) : ofInt byte.toNat = ofByte byte := by
  have inRange : 0 ≤ (byte.toNat : Int) ∧ (byte.toNat : Int) < 256 := by
    have below : byte.toNat < 256 := byte.toNat_lt
    omega
  rw [ofInt, if_pos inRange, Int.toNat_natCast, UInt8.ofNat_toNat]

theorem ofInt_of_beyond
    {value : Int}
    (beyond : value < 0 ∨ 255 < value) : ofInt value = .error (.outOfRange value) := by
  have outside : ¬(0 ≤ value ∧ value < 256) := by omega
  rw [ofInt, if_neg outside]

/-- A number is a byte, or it is beyond the bytes. -/
theorem exists_byte_or_beyond (value : Int) :
    (∃ byte : UInt8, value = byte.toNat) ∨ value < 0 ∨ 255 < value := by
  by_cases inRange : 0 ≤ value ∧ value < 256
  · have below : value.toNat < 256 := by omega
    refine Or.inl ⟨UInt8.ofNat value.toNat, ?_⟩
    rw [UInt8.toNat_ofNat_of_lt' below]
    omega
  · exact Or.inr (by omega)

/-- A number is accepted exactly as the code with this value. -/
theorem ofInt_eq_ok_iff
    {value : Int}
    {code : Code} : ofInt value = .ok code ↔ value = code.value.toNat := by
  rcases exists_byte_or_beyond value with ⟨byte, rfl⟩ | beyond
  · rw [ofInt_natCast, ofByte_eq_ok_iff, Int.natCast_inj, UInt8.toNat_inj, eq_comm]
  · have below : code.value.toNat < 256 := code.value.toNat_lt
    rw [ofInt_of_beyond beyond]
    constructor
    · intro accepted
      contradiction
    · intro value_eq
      omega

/-- A number is refused as out of range exactly when it is beyond the bytes. -/
theorem ofInt_eq_outOfRange_iff
    {value other : Int} :
    ofInt value = .error (.outOfRange other) ↔ other = value ∧ (value < 0 ∨ 255 < value) := by
  rcases exists_byte_or_beyond value with ⟨byte, rfl⟩ | beyond
  · rw [ofInt_natCast, ofByte_eq_error_iff]
    have below : byte.toNat < 256 := byte.toNat_lt
    constructor
    · rintro ⟨same, -⟩
      contradiction
    · rintro ⟨-, beyond⟩
      omega
  · rw [ofInt_of_beyond beyond, Except.error.injEq, Error.outOfRange.injEq, eq_comm]
    exact (and_iff_left beyond).symm

/-- A number is refused as an unknown byte exactly when it is that byte and no code is. -/
theorem ofInt_eq_unknownValue_iff
    {value : Int}
    {byte : UInt8} :
    ofInt value = .error (.unknownValue byte) ↔
      value = byte.toNat ∧ ∀ code : Code, code.value ≠ byte := by
  rcases exists_byte_or_beyond value with ⟨other, rfl⟩ | beyond
  · rw [ofInt_natCast, ofByte_eq_error_iff, Error.unknownValue.injEq, Int.natCast_inj,
      UInt8.toNat_inj, eq_comm]
    constructor
    · rintro ⟨rfl, no_code⟩
      exact ⟨rfl, no_code⟩
    · rintro ⟨rfl, no_code⟩
      exact ⟨rfl, no_code⟩
  · have below : byte.toNat < 256 := byte.toNat_lt
    rw [ofInt_of_beyond beyond]
    constructor
    · intro refused
      have same_error := Except.error.inj refused
      contradiction
    · rintro ⟨value_eq, -⟩
      omega

end Code

namespace Lookup

theorem code?_eq_some_iff
    {number : Int32}
    {code : Code} : code? number = some code ↔ number.toInt = code.value.toNat := by
  rw [← Code.ofInt_eq_ok_iff, code?]
  cases Code.ofInt number.toInt <;> simp [Except.toOption]

/-- No number is the value of two codes. -/
theorem code_unique
    {number : Int32}
    {code other : Code}
    (value_eq : number.toInt = code.value.toNat)
    (other_eq : number.toInt = other.value.toNat) : other = code :=
  Option.some.inj
    ((code?_eq_some_iff.2 other_eq).symm.trans (code?_eq_some_iff.2 value_eq))

/-- The number is the byte of the word. -/
theorem word?_eq_some_iff
    {number : Int32}
    {word : Word} : word? number = some word ↔ number.toInt = word.raw.toNat := by
  have below : word.raw.toNat < 256 := word.raw.toNat_lt
  unfold word?
  split
  · rename_i inRange
    have small : number.toInt.toNat < 256 := by omega
    rw [Option.some.injEq, Word.ext_iff, ← UInt8.toNat_inj, UInt8.toNat_ofNat_of_lt' small]
    omega
  · rename_i outside
    constructor
    · intro found
      contradiction
    · intro number_eq
      omega

/-- The number is a byte. -/
def IsByte (number : Int32) : Prop :=
  0 ≤ number.toInt ∧ number.toInt ≤ 255

theorem isByte_iff
    {number : Int32} : IsByte number ↔ ∃ word, word? number = some word := by
  simp only [word?_eq_some_iff]
  constructor
  · rintro ⟨nonneg, le⟩
    have small : number.toInt.toNat < 256 := by omega
    refine ⟨⟨UInt8.ofNat number.toInt.toNat⟩, ?_⟩
    rw [UInt8.toNat_ofNat_of_lt' small]
    omega
  · rintro ⟨word, number_eq⟩
    have below : word.raw.toNat < 256 := word.raw.toNat_lt
    exact ⟨by omega, by omega⟩

/-! ## Answers -/

theorem ofBool_eq_one_iff {value : Bool} : ofBool value = 1 ↔ value = true := by
  cases value <;> decide

theorem ofBool_cases (value : Bool) : ofBool value = 0 ∨ ofBool value = 1 := by
  cases value <;> decide

theorem isKnown_eq_one_iff
    {number : Int32} : isKnown number = 1 ↔ ∃ code : Code, number.toInt = code.value.toNat := by
  rw [isKnown, ofBool_eq_one_iff, Option.isSome_iff_exists]
  simp only [code?_eq_some_iff]

@[simp] theorem isKnown_ofCode (code : Code) : isKnown (ofCode code) = 1 :=
  isKnown_eq_one_iff.2 ⟨code, toInt_ofCode code⟩

/-- A word is asked about by the number of its byte. -/
theorem hasReached_of_word
    {number stage : Int32}
    {word : Word}
    {code : Code}
    (word_eq : word? number = some word)
    (code_eq : code? stage = some code) :
    hasReached number stage = ofBool (word.hasReached code) := by
  rw [hasReached, word_eq, code_eq]

theorem stage_of_word
    {number : Int32}
    {word : Word}
    (word_eq : word? number = some word) : stage number = ofCode word.stage := by
  rw [stage, word_eq]

/-- Only a word and a code give the answer one. -/
theorem exists_of_hasReached
    {number stage : Int32}
    (reached : hasReached number stage = 1) :
    ∃ word code, word? number = some word ∧ code? stage = some code ∧
      word.hasReached code = true := by
  cases word_eq : word? number with
  | none => simp [hasReached, word_eq] at reached
  | some word =>
      cases code_eq : code? stage with
      | none => simp [hasReached, word_eq, code_eq] at reached
      | some code =>
          rw [hasReached_of_word word_eq code_eq, ofBool_eq_one_iff] at reached
          exact ⟨word, code, rfl, rfl, reached⟩

theorem hasReached_cases (number stage : Int32) :
    hasReached number stage = 0 ∨ hasReached number stage = 1 := by
  unfold hasReached
  split
  · exact ofBool_cases _
  · exact Or.inl rfl

/-- Whether a word has reached a code can be seen from the bits of the two numbers. -/
theorem hasReached_iff_testBit
    {number stage : Int32}
    {word : Word}
    {code : Code}
    (word_eq : word? number = some word)
    (code_eq : code? stage = some code) :
    word.hasReached code = true ↔
      ∀ position, stage.toInt.toNat.testBit position = true →
        number.toInt.toNat.testBit position = true := by
  rw [word?_eq_some_iff.1 word_eq, code?_eq_some_iff.1 code_eq, Int.toNat_natCast,
    Int.toNat_natCast]
  exact Word.contains_iff

theorem hasReached_eq_one_iff
    {number stage : Int32} :
    hasReached number stage = 1 ↔
      IsByte number ∧ isKnown stage = 1 ∧
        ∀ position, stage.toInt.toNat.testBit position = true →
          number.toInt.toNat.testBit position = true := by
  constructor
  · intro reached
    obtain ⟨word, code, word_eq, code_eq, holds⟩ := exists_of_hasReached reached
    exact
      ⟨isByte_iff.2 ⟨word, word_eq⟩, isKnown_eq_one_iff.2 ⟨code, code?_eq_some_iff.1 code_eq⟩,
        (hasReached_iff_testBit word_eq code_eq).1 holds⟩
  · rintro ⟨isByte, known, bits⟩
    obtain ⟨word, word_eq⟩ := isByte_iff.1 isByte
    obtain ⟨code, value_eq⟩ := isKnown_eq_one_iff.1 known
    have code_eq := code?_eq_some_iff.2 value_eq
    rw [hasReached_of_word word_eq code_eq, ofBool_eq_one_iff,
      hasReached_iff_testBit word_eq code_eq]
    exact bits

theorem stage_eq_neg_one_iff
    {number : Int32} : stage number = -1 ↔ ¬IsByte number := by
  rw [isByte_iff]
  cases word_eq : word? number with
  | none =>
      rw [stage, word_eq]
      simp
  | some word =>
      rw [stage_of_word word_eq]
      simp [ofCode_ne_neg_one]

/-- What callers are told about two numbers, the second of them taken for a code and the first one
for a word. -/
structure IsCoherent (number code : Int32) : Prop where
  /-- A number is known exactly if it has a name. -/
  isKnown_iff_named : isKnown code = 1 ↔ (nameBytes? code).isSome = true
  /-- It is known exactly if it is the value of a code, and there is only one such code. -/
  isKnown_iff_value : isKnown code = 1 ↔ ∃! known : Code, code.toInt = known.value.toNat
  /-- Else the answer is zero. -/
  isKnown_cases : isKnown code = 0 ∨ isKnown code = 1
  /-- The name of a known number is the canonical one of its code. -/
  name?_eq : ∀ known : Code, code.toInt = known.value.toNat → name? code = some known.name
  /-- Only the value of a code is accepted as this code. -/
  ok_iff : ∀ known : Code,
    Code.ofInt code.toInt = .ok known ↔ code.toInt = known.value.toNat
  /-- A number is reported as out of range exactly if it is no byte. -/
  outOfRange_iff : Code.ofInt code.toInt = .error (.outOfRange code.toInt) ↔ ¬IsByte code
  /-- A byte that is not known is reported as it is. -/
  unknownValue : IsByte code → isKnown code ≠ 1 →
    ∃ byte : UInt8,
      code.toInt = byte.toNat ∧ Code.ofInt code.toInt = .error (.unknownValue byte)
  /-- A number has reached another one exactly if it is a byte, the other one is known, and it has
  all bits of the other one. -/
  hasReached_iff : hasReached number code = 1 ↔
    IsByte number ∧ isKnown code = 1 ∧
      ∀ position, code.toInt.toNat.testBit position = true →
        number.toInt.toNat.testBit position = true
  /-- Else the answer is zero. -/
  hasReached_cases : hasReached number code = 0 ∨ hasReached number code = 1
  /-- A number that is no byte has no stage. -/
  stage_eq_neg_one_iff : stage number = -1 ↔ ¬IsByte number
  /-- The stage of a byte is the stage of the lifecycle that it has reached while it has reached no
  later one. -/
  stage_eq : IsByte number →
    ∃ reached ∈ Code.lifecycle,
      stage number = ofCode reached ∧ hasReached number (ofCode reached) = 1 ∧
        ∀ later ∈ Code.lifecycle,
          Code.lifecycle.idxOf reached < Code.lifecycle.idxOf later →
            hasReached number (ofCode later) = 0
  /-- It is no earlier one than any stage of the lifecycle that the byte has reached. -/
  idxOf_le : ∀ earlier ∈ Code.lifecycle,
    code.toInt = earlier.value.toNat → hasReached number code = 1 →
      ∃ reached ∈ Code.lifecycle,
        stage number = ofCode reached ∧
          Code.lifecycle.idxOf earlier ≤ Code.lifecycle.idxOf reached

/-- Whatever two numbers a caller has, the answers about them go together. -/
theorem isCoherent (number code : Int32) : IsCoherent number code where
  isKnown_iff_named := by
    rw [isKnown, ofBool_eq_one_iff, nameBytes?, Option.isSome_map]
  isKnown_iff_value := by
    rw [isKnown_eq_one_iff]
    constructor
    · rintro ⟨known, value_eq⟩
      exact ⟨known, value_eq, fun other other_eq => code_unique value_eq other_eq⟩
    · rintro ⟨known, value_eq, -⟩
      exact ⟨known, value_eq⟩
  isKnown_cases := ofBool_cases _
  name?_eq known value_eq := by
    rw [Lookup.name?_eq, code?_eq_some_iff.2 value_eq, Option.map_some]
  ok_iff _ := Code.ofInt_eq_ok_iff
  outOfRange_iff := by
    rw [Code.ofInt_eq_outOfRange_iff, IsByte]
    omega
  unknownValue isByte unknown := by
    obtain ⟨word, word_eq⟩ := isByte_iff.1 isByte
    have value_eq := word?_eq_some_iff.1 word_eq
    refine ⟨word.raw, value_eq, Code.ofInt_eq_unknownValue_iff.2 ⟨value_eq, ?_⟩⟩
    intro known same
    rw [← same] at value_eq
    exact unknown (isKnown_eq_one_iff.2 ⟨known, value_eq⟩)
  hasReached_iff := hasReached_eq_one_iff
  hasReached_cases := Lookup.hasReached_cases number code
  stage_eq_neg_one_iff := Lookup.stage_eq_neg_one_iff
  stage_eq isByte := by
    obtain ⟨word, word_eq⟩ := isByte_iff.1 isByte
    refine ⟨word.stage, word.stage_mem_lifecycle, stage_of_word word_eq, ?_, ?_⟩
    · rw [hasReached_of_word word_eq (code?_ofCode word.stage), word.hasReached_stage]
      rfl
    · intro later member comes_later
      rw [hasReached_of_word word_eq (code?_ofCode later)]
      cases reached : word.hasReached later with
      | false => rfl
      | true =>
          have no_later := Word.idxOf_le_idxOf_stage member reached
          omega
  idxOf_le earlier member value_eq reached := by
    obtain ⟨word, other, word_eq, other_eq, holds⟩ := exists_of_hasReached reached
    obtain rfl := code_unique (code?_eq_some_iff.1 other_eq) value_eq
    exact ⟨word.stage, word.stage_mem_lifecycle, stage_of_word word_eq,
      Word.idxOf_le_idxOf_stage member holds⟩

/-- A number beyond the bytes is not cut down to the code in its lowest bits. -/
example : isKnown 0x136 = 0 ∧ nameBytes? 0x136 = none ∧ hasReached 0x136 0x36 = 0 := by decide

end Lookup
end ObjectStatus
