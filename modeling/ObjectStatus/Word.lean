import ObjectStatus.Code

/-!
# Status words

A status word is any byte: a code, or a combination of flags that gathers while an object learns
about its endpoints. A word has reached a code when it holds every bit of the code, and its stage
is the furthest stage of the lifecycle that it has reached.
-/

namespace ObjectStatus

/-- A status byte, whether or not it is the value of a code. -/
@[ext]
structure Word where
  /-- The byte itself. -/
  raw : UInt8
  deriving DecidableEq

/-- The word that is exactly this code. -/
def Code.word (code : Code) : Word :=
  ⟨code.value⟩

namespace Word

/-- The word without bits. -/
def empty : Word := ⟨0x00⟩

/-- The object has expired. -/
def expiredFlag : Word := ⟨0x01⟩

/-- The object exists locally. -/
def stagedFlag : Word := ⟨0x02⟩

/-- The vector length of the signal is known. -/
def lengthKnown : Word := ⟨0x04⟩

/-- The data type of the signal is known. -/
def typeKnown : Word := ⟨0x08⟩

/-- The link to the remote device is established. -/
def linkKnown : Word := ⟨0x10⟩

instance : Ord Word where
  compare first second := compare first.raw second.raw

/-- The bits of either word. -/
def union (first second : Word) : Word :=
  ⟨first.raw ||| second.raw⟩

/-- The bits of both words. -/
def inter (first second : Word) : Word :=
  ⟨first.raw &&& second.raw⟩

/-- The bits that are not set. -/
def complement (word : Word) : Word :=
  ⟨~~~word.raw⟩

/-- The word after the given bits are set. -/
def insert (word bits : Word) : Word :=
  ⟨word.raw ||| bits.raw⟩

/-- The word after the given bits are cleared. -/
def remove (word bits : Word) : Word :=
  ⟨word.raw &&& ~~~bits.raw⟩

instance : OrOp Word := ⟨union⟩

instance : AndOp Word := ⟨inter⟩

instance : Complement Word := ⟨complement⟩

/-- The word has no bits. -/
def isEmpty (word : Word) : Bool :=
  word.raw == 0

/-- Every bit of the second word is set in the first. -/
def contains (word bits : Word) : Bool :=
  word.raw &&& bits.raw == bits.raw

/-- The two words share a bit. -/
def intersects (word bits : Word) : Bool :=
  word.raw &&& bits.raw != 0

/-- The code that the word is exactly equal to, if there is one. -/
def known (word : Word) : Option Code :=
  Code.ofValue? word.raw

/-- The word holds every bit of the code. -/
def hasReached (word : Word) (code : Code) : Bool :=
  word.contains code.word

/-- The furthest stage of the lifecycle that the word has reached. The first stage has no bits, so
every word has reached one. -/
def stage (word : Word) : Code :=
  (Code.lifecycle.reverse.find? word.hasReached).getD .undefined

/-- The codes that the word has reached, in table order. -/
def reached (word : Word) : List Code :=
  Code.all.filter word.hasReached

/-- The word has reached `ready`. -/
def isReady (word : Word) : Bool :=
  word.hasReached .ready

/-- The word has reached `active`. -/
def isActive (word : Word) : Bool :=
  word.hasReached .active

/-- The word carries the bit of an expired object. -/
def isExpired (word : Word) : Bool :=
  word.intersects expiredFlag

@[simp] theorem raw_union (first second : Word) :
    (first.union second).raw = first.raw ||| second.raw := rfl

@[simp] theorem raw_inter (first second : Word) :
    (first.inter second).raw = first.raw &&& second.raw := rfl

@[simp] theorem raw_complement (word : Word) :
    word.complement.raw = ~~~word.raw := rfl

@[simp] theorem raw_insert (word bits : Word) :
    (word.insert bits).raw = word.raw ||| bits.raw := rfl

@[simp] theorem raw_remove (word bits : Word) :
    (word.remove bits).raw = word.raw &&& ~~~bits.raw := rfl

@[simp] theorem known_word (code : Code) : code.word.known = some code :=
  Code.ofValue?_value code

/-- Setting bits changes nothing exactly when all of them are set. -/
theorem insert_eq_self_iff
    {word bits : Word} :
    word.insert bits = word ↔ word.contains bits = true := by
  simp only [Word.ext_iff, raw_insert, contains, beq_iff_eq, ← UInt8.toBitVec_inj,
    UInt8.toBitVec_or, UInt8.toBitVec_and]
  constructor
  · intro unchanged
    ext position
    have bit := congrArg (fun bits => bits[position]) unchanged
    simp only [BitVec.getElem_or, BitVec.getElem_and] at bit ⊢
    cases set : bits.raw.toBitVec[position] with
    | false => simp
    | true => simpa [set] using bit
  · intro contained
    ext position
    have bit := congrArg (fun bits => bits[position]) contained
    simp only [BitVec.getElem_or, BitVec.getElem_and] at bit ⊢
    cases set : bits.raw.toBitVec[position] with
    | false => simp
    | true => simpa [set] using bit

/-- A word is named by a code exactly when it is the word of that code. -/
theorem known_eq_some_iff
    {word : Word}
    {code : Code} :
    word.known = some code ↔ word = code.word := by
  unfold known
  rw [Code.ofValue?_eq_some_iff]
  constructor
  · intro value_eq
    exact Word.ext value_eq.symm
  · rintro rfl
    rfl

end Word

/-- Different codes are different words. -/
theorem Code.word_ne_word
    {first second : Code}
    (different : first ≠ second) : first.word ≠ second.word := by
  intro same
  have known_eq := congrArg Word.known same
  rw [Word.known_word, Word.known_word, Option.some.injEq] at known_eq
  exact different known_eq

end ObjectStatus
