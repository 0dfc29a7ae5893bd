import ObjectStatus.Lookup
import ObjectStatus.Proofs.Reading.Shown

/-!
# Lookups by name

A caller that has only bytes gets the number of a code for every text of the code, and minus one for
everything else. The number leads to the canonical name of the code, and the bytes of this name lead
back to the number, so a name that was looked up once is looked up again as the same.
-/

namespace ObjectStatus
namespace Lookup

/-! ## Bytes up to a zero byte -/

/-- The bytes in front of the first zero byte, which are all bytes if there is none. -/
structure IsBeforeZero (front bytes : List UInt8) : Prop where
  /-- There is no zero byte among them. -/
  zero_notMem : 0 ∉ front
  /-- They are followed by a zero byte, or by nothing. -/
  exists_rest : ∃ rest, bytes = front ++ rest ∧ ∀ byte ∈ rest.head?, byte = 0

theorem IsBeforeZero.beforeZero_eq
    {front bytes : List UInt8}
    (isBeforeZero : IsBeforeZero front bytes) : beforeZero bytes = front := by
  obtain ⟨zero_notMem, rest, rfl, rest_head⟩ := isBeforeZero
  have front_nonzero : ∀ byte ∈ front, (byte != 0) = true := by
    intro byte member
    rw [bne_iff_ne]
    rintro rfl
    exact zero_notMem member
  rw [beforeZero, List.takeWhile_append_of_pos front_nonzero]
  cases rest with
  | nil => simp
  | cons byte rest =>
      obtain rfl : byte = 0 := rest_head byte rfl
      simp

theorem isBeforeZero_beforeZero (bytes : List UInt8) :
    IsBeforeZero (beforeZero bytes) bytes where
  zero_notMem := by
    intro member
    have nonzero := List.all_eq_true.1 List.all_takeWhile 0 member
    contradiction
  exists_rest := by
    refine ⟨bytes.dropWhile fun byte => byte != 0, List.takeWhile_append_dropWhile.symm, ?_⟩
    intro byte member
    have found := List.head?_dropWhile_not (fun byte : UInt8 => byte != 0) bytes
    rw [member] at found
    simpa using found

/-- The bytes in front of the first zero byte are the text, in UTF-8, of this code. -/
def Spells
    (bytes : List UInt8)
    (code : Code) : Prop :=
  ∃ front text,
    IsBeforeZero front bytes ∧ front = Text.toUtf8 text ∧ Code.read text = .ok code

theorem spells_iff
    {bytes : List UInt8}
    {code : Code} :
    Spells bytes code ↔
      ∃ text, Text.ofUtf8? (beforeZero bytes) = some text ∧ Code.read text = .ok code := by
  constructor
  · rintro ⟨front, text, isBeforeZero, encoded, read⟩
    refine ⟨text, ?_, read⟩
    rw [isBeforeZero.beforeZero_eq, Text.ofUtf8?_eq_some_iff, encoded]
  · rintro ⟨text, decoded, read⟩
    exact
      ⟨beforeZero bytes, text, isBeforeZero_beforeZero bytes,
        Text.ofUtf8?_eq_some_iff.1 decoded, read⟩

/-! ## Numbers and names of codes -/

@[simp] theorem toInt_ofCode (code : Code) : (ofCode code).toInt = code.value.toNat := by
  cases code <;> decide

@[simp] theorem code?_ofCode (code : Code) : code? (ofCode code) = some code := by
  cases code <;> decide

theorem ofCode_injective {code other : Code} (same : ofCode code = ofCode other) :
    code = other := by
  have found := congrArg code? same
  simpa using found

/-- A number belongs to a code if it has the value of the code. -/
theorem eq_ofCode_iff {number : Int32} {code : Code} :
    number = ofCode code ↔ number.toInt = code.value.toNat := by
  rw [← Int32.toInt_inj, toInt_ofCode]

theorem ofCode_ne_neg_one (code : Code) : ofCode code ≠ -1 := by
  cases code <;> decide

/-- The table of closed names holds the canonical names. -/
theorem toUtf8_closedName (code : Code) :
    Text.toUtf8 (closedName code) = Text.toUtf8 code.name ++ [0] := by
  cases code <;> decide +kernel

theorem isBeforeZero_closedName (code : Code) :
    IsBeforeZero (Text.toUtf8 code.name) (Text.toUtf8 (closedName code)) where
  zero_notMem := by cases code <;> decide +kernel
  exists_rest := ⟨[0], toUtf8_closedName code, by simp⟩

/-- The bytes of the name of a code spell the code. -/
theorem spells_closedName (code : Code) : Spells (Text.toUtf8 (closedName code)) code := by
  have named : code.IsNamedBy (Text.trim code.name.toList) := by
    rw [Text.trim_of_isAlphanum code.isAlphanum_name]
    exact code.isNamedBy_name
  exact ⟨_, code.name, isBeforeZero_closedName code, rfl, Code.read_of_isNamedBy named⟩

@[simp] theorem nameBytes?_ofCode (code : Code) :
    nameBytes? (ofCode code) = some (Text.toUtf8 (closedName code)) := by
  rw [nameBytes?, code?_ofCode, Option.map_some]

/-- The name of a number is the canonical name of its code. -/
theorem name?_eq (number : Int32) : name? number = (code? number).map Code.name := by
  unfold name? nameBytes?
  cases code? number with
  | none => rfl
  | some code =>
      simp [(isBeforeZero_closedName code).beforeZero_eq]

/-! ## Looking up a name -/

theorem ofName_of_spells
    {bytes : List UInt8}
    {code : Code}
    (spells : Spells bytes code) : ofName (some bytes) = ofCode code := by
  obtain ⟨text, decoded, read⟩ := spells_iff.1 spells
  simp [ofName, decoded, read]

theorem ofName_of_not_spells
    {given : Option (List UInt8)}
    (nothing : ∀ bytes ∈ given, ∀ code, ¬Spells bytes code) : ofName given = -1 := by
  cases given with
  | none => rfl
  | some bytes =>
      simp only [Option.mem_some_iff, forall_eq', spells_iff, not_exists, not_and] at nothing
      cases decoded : Text.ofUtf8? (beforeZero bytes) with
      | none => simp [ofName, decoded]
      | some text =>
          cases read : Code.read text with
          | ok code => exact absurd read (nothing code text decoded)
          | error error => simp [ofName, decoded, read]

/-- Bytes spell a code and get its number, or they get minus one. -/
theorem ofName_cases (given : Option (List UInt8)) :
    (∃ bytes ∈ given, ∃ code, Spells bytes code ∧ ofName given = ofCode code) ∨
      (∀ bytes ∈ given, ∀ code, ¬Spells bytes code) ∧ ofName given = -1 := by
  by_cases spelled : ∃ bytes ∈ given, ∃ code, Spells bytes code
  · obtain ⟨bytes, rfl, code, spells⟩ := spelled
    exact Or.inl ⟨bytes, rfl, code, spells, ofName_of_spells spells⟩
  · have nothing : ∀ bytes ∈ given, ∀ code, ¬Spells bytes code :=
      fun bytes member code spells => spelled ⟨bytes, member, code, spells⟩
    exact Or.inr ⟨nothing, ofName_of_not_spells nothing⟩

/-- What the bytes that a caller has, if it has any, are looked up as. -/
structure IsLookedUp (given : Option (List UInt8)) : Prop where
  /-- A number that is not negative is the answer exactly if the bytes spell a code, and the number is
  the value of the code. -/
  eq_iff : ∀ number : Int32, 0 ≤ number →
    (ofName given = number ↔
      ∃ bytes ∈ given, ∃ code, Spells bytes code ∧ number.toInt = code.value.toNat)
  /-- In every other case the answer is minus one: no bytes at all, bytes that are not UTF-8, even if
  they begin with a name, or a text that is read as no code. -/
  eq_neg_one_iff : ofName given = -1 ↔ ∀ bytes ∈ given, ∀ code, ¬Spells bytes code
  /-- A number that is found is known. -/
  isKnown_eq : 0 ≤ ofName given → isKnown (ofName given) = 1
  /-- It has the canonical name of the code. -/
  name?_eq : ∀ bytes ∈ given, ∀ code, Spells bytes code → name? (ofName given) = some code.name
  /-- There are bytes for the name, and they are looked up as the number again. -/
  ofName_nameBytes? : 0 ≤ ofName given →
    (nameBytes? (ofName given)).isSome ∧ ofName (nameBytes? (ofName given)) = ofName given
  /-- Looking up a name that was looked up brings nothing new. -/
  nameBytes?_idem :
    nameBytes? (ofName (nameBytes? (ofName given))) = nameBytes? (ofName given)

/-- Whatever bytes a caller has, they are looked up as what they spell, and names once and for
all. -/
theorem isLookedUp (given : Option (List UInt8)) : IsLookedUp given := by
  rcases ofName_cases given with ⟨bytes, rfl, code, spells, found⟩ | ⟨nothing, found⟩
  · have unique : ∀ other, Spells bytes other → other = code := fun other spelled =>
      ofCode_injective ((ofName_of_spells spelled).symm.trans found)
    have again : ofName (nameBytes? (ofCode code)) = ofCode code := by
      rw [nameBytes?_ofCode, ofName_of_spells (spells_closedName code)]
    exact
      { eq_iff := by
          intro number _
          rw [found, eq_comm, eq_ofCode_iff]
          constructor
          · intro value_eq
            exact ⟨bytes, rfl, code, spells, value_eq⟩
          · rintro ⟨_, ⟨⟩, other, spelled, value_eq⟩
            rwa [unique other spelled] at value_eq
        eq_neg_one_iff := by
          rw [found]
          constructor
          · intro negative
            exact absurd negative (ofCode_ne_neg_one code)
          · intro nothing
            exact absurd spells (nothing bytes rfl code)
        isKnown_eq := by
          intro _
          rw [found, isKnown, code?_ofCode]
          rfl
        name?_eq := by
          rintro _ ⟨⟩ other spelled
          rw [found, unique other spelled, name?_eq, code?_ofCode, Option.map_some]
        ofName_nameBytes? := by
          intro _
          rw [found, again]
          simp
        nameBytes?_idem := by rw [found, again] }
  · have negative : ¬0 ≤ ofName given := by
      rw [found]
      decide
    have nameless : nameBytes? (-1) = none := by decide
    exact
      { eq_iff := by
          intro number number_nonneg
          constructor
          · rintro rfl
            exact absurd number_nonneg negative
          · rintro ⟨bytes, member, code, spells, _⟩
            exact absurd spells (nothing bytes member code)
        eq_neg_one_iff := iff_of_true found nothing
        isKnown_eq := fun nonneg => absurd nonneg negative
        name?_eq := fun bytes member code spells => absurd spells (nothing bytes member code)
        ofName_nameBytes? := fun nonneg => absurd nonneg negative
        nameBytes?_idem := by
          rw [found, nameless]
          rfl }

end Lookup
end ObjectStatus
