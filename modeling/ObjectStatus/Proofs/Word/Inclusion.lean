import Mathlib.Data.Finset.Card
import Mathlib.Data.Finset.Range
import ObjectStatus.Word

/-!
# Inclusion of words

A word is the set of its bits. One word contains another when it has every bit of it, setting bits
makes the least word that contains both, and whatever a word says about progress it goes on to say
when bits are set: the codes that it has reached, its stage, and whether it is ready, active or
expired.
-/

namespace ObjectStatus
namespace Word

/-- The bit at this position is set. The positions count from zero, the lowest bit. -/
def holds (word : Word) (position : Nat) : Bool :=
  word.raw.toNat.testBit position

/-- Words with the same bits are equal. -/
theorem ext_holds
    {first second : Word}
    (same : ∀ position, first.holds position = second.holds position) : first = second :=
  Word.ext (UInt8.toNat_inj.1 (Nat.eq_of_testBit_eq same))

@[simp] theorem holds_empty (position : Nat) : empty.holds position = false := by
  simp [holds, empty]

@[simp] theorem holds_insert
    (word bits : Word)
    (position : Nat) :
    (word.insert bits).holds position = (word.holds position || bits.holds position) := by
  simp [holds, Nat.testBit_or]

@[simp] theorem holds_inter
    (first second : Word)
    (position : Nat) :
    (first.inter second).holds position = (first.holds position && second.holds position) := by
  simp [holds, Nat.testBit_and]

/-- The bit of an expired object is the lowest one. -/
theorem isExpired_eq_holds (word : Word) : word.isExpired = word.holds 0 := by
  have lowest : (word.raw &&& 0x01).toNat = word.raw.toNat % 2 := by
    rw [UInt8.toNat_and]
    exact Nat.and_one_is_mod word.raw.toNat
  unfold isExpired intersects expiredFlag holds
  rw [Nat.testBit_zero, Bool.eq_iff_iff, bne_iff_ne, decide_eq_true_iff, ne_eq, ← UInt8.toNat_inj,
    lowest, UInt8.toNat_zero]
  omega

/-- A word contains another exactly when it has every bit of it. -/
theorem contains_iff
    {word bits : Word} :
    word.contains bits = true ↔
      ∀ position, bits.holds position = true → word.holds position = true := by
  rw [← insert_eq_self_iff]
  constructor
  · intro unchanged position set
    rw [← unchanged, holds_insert, set, Bool.or_true]
  · intro included
    apply ext_holds
    intro position
    rw [holds_insert]
    cases set : bits.holds position with
    | false => rw [Bool.or_false]
    | true => rw [included position set, Bool.or_true]

@[simp] theorem contains_self (word : Word) : word.contains word = true :=
  contains_iff.2 fun _ set => set

theorem contains_trans
    {first second third : Word}
    (larger : first.contains second = true)
    (smaller : second.contains third = true) : first.contains third = true :=
  contains_iff.2 fun position set =>
    contains_iff.1 larger position (contains_iff.1 smaller position set)

@[simp] theorem contains_insert_self (word bits : Word) :
    (word.insert bits).contains word = true := by
  rw [contains_iff]
  intro position set
  rw [holds_insert, set, Bool.true_or]

@[simp] theorem contains_insert_bits (word bits : Word) :
    (word.insert bits).contains bits = true := by
  rw [contains_iff]
  intro position set
  rw [holds_insert, set, Bool.or_true]

/-- Setting bits makes the least word that contains the word and the bits. -/
theorem contains_insert_iff
    {word bits bound : Word} :
    bound.contains (word.insert bits) = true ↔
      bound.contains word = true ∧ bound.contains bits = true := by
  constructor
  · intro larger
    exact ⟨contains_trans larger (contains_insert_self word bits),
      contains_trans larger (contains_insert_bits word bits)⟩
  · rintro ⟨contains_word, contains_bits⟩
    rw [contains_iff]
    intro position set
    rw [holds_insert, Bool.or_eq_true] at set
    rcases set with old | new
    · exact contains_iff.1 contains_word position old
    · exact contains_iff.1 contains_bits position new

/-- Setting the same bits keeps words in order. -/
theorem contains_insert_insert
    {word larger : Word}
    (grown : larger.contains word = true)
    (bits : Word) : (larger.insert bits).contains (word.insert bits) = true :=
  contains_insert_iff.2
    ⟨contains_trans (contains_insert_self larger bits) grown, contains_insert_bits larger bits⟩

/-- So does keeping only the same bits. -/
theorem contains_inter_inter
    {word larger : Word}
    (grown : larger.contains word = true)
    (bits : Word) : (larger.inter bits).contains (word.inter bits) = true := by
  rw [contains_iff]
  intro position set
  rw [holds_inter, Bool.and_eq_true] at set ⊢
  exact ⟨contains_iff.1 grown position set.1, set.2⟩

@[simp] theorem insert_empty (word : Word) : word.insert empty = word :=
  ext_holds fun position => by rw [holds_insert, holds_empty, Bool.or_false]

@[simp] theorem isExpired_insert (word bits : Word) :
    (word.insert bits).isExpired = (word.isExpired || bits.isExpired) := by
  rw [isExpired_eq_holds, isExpired_eq_holds, isExpired_eq_holds, holds_insert]

/-- Words that contain each other are equal. -/
theorem eq_of_contains
    {first second : Word}
    (larger : first.contains second = true)
    (smaller : second.contains first = true) : first = second :=
  ext_holds fun position =>
    Bool.eq_iff_iff.2 ⟨contains_iff.1 smaller position, contains_iff.1 larger position⟩

/-! ## Positions -/

theorem lt_of_holds
    {word : Word}
    {position : Nat}
    (set : word.holds position = true) : position < 8 := by
  by_contra beyond
  have below : word.raw.toNat < 2 ^ position :=
    Nat.lt_of_lt_of_le word.raw.toNat_lt (Nat.pow_le_pow_right (by decide) (Nat.le_of_not_lt beyond))
  have clear := Nat.testBit_lt_two_pow below
  unfold holds at set
  rw [clear] at set
  contradiction

/-- Words with the same eight bits are equal. -/
theorem ext_holds_of_lt
    {first second : Word}
    (same : ∀ position < 8, first.holds position = second.holds position) : first = second := by
  apply ext_holds
  intro position
  by_cases inRange : position < 8
  · exact same position inRange
  · rw [Bool.eq_false_iff.2 fun set => inRange (lt_of_holds set),
      Bool.eq_false_iff.2 fun set => inRange (lt_of_holds set)]

/-- The complement turns all eight bits over. -/
theorem holds_complement
    {position : Nat}
    (inRange : position < 8)
    (word : Word) : word.complement.holds position = !word.holds position := by
  simp only [holds, raw_complement, ← UInt8.toNat_toBitVec, BitVec.testBit_toNat,
    UInt8.toBitVec_not, BitVec.getLsbD_not, inRange, decide_true, Bool.true_and]

/-! ## Room -/

/-- How many bits of the word are clear. -/
def room (word : Word) : Nat :=
  ((Finset.range 8).filter fun position => word.holds position = false).card

theorem room_le (word : Word) : word.room ≤ 8 :=
  (Finset.card_filter_le _ _).trans (Finset.card_range 8).le

/-- A word that gains bits loses room. -/
theorem room_lt_of_contains
    {word larger : Word}
    (grown : larger.contains word = true)
    (different : larger ≠ word) : larger.room < word.room := by
  have gained : ∃ position, larger.holds position = true ∧ word.holds position = false := by
    by_contra none_gained
    refine different (eq_of_contains grown (contains_iff.2 fun position set => ?_))
    by_contra clear
    exact none_gained ⟨position, set, Bool.eq_false_iff.2 clear⟩
  obtain ⟨position, set, clear⟩ := gained
  have inRange : position ∈ Finset.range 8 := Finset.mem_range.2 (lt_of_holds set)
  apply Finset.card_lt_card
  refine ⟨fun other member => ?_, fun subset => ?_⟩
  · rw [Finset.mem_filter] at member ⊢
    refine ⟨member.1, Bool.eq_false_iff.2 fun held => ?_⟩
    exact Bool.eq_false_iff.1 member.2 (contains_iff.1 grown other held)
  · have still_clear := (Finset.mem_filter.1 (subset (Finset.mem_filter.2 ⟨inRange, clear⟩))).2
    exact Bool.eq_false_iff.1 still_clear set

/-! ## Progress -/

/-- What a word has reached is reached by every word that contains it. -/
theorem hasReached_of_contains
    {word larger : Word}
    {code : Code}
    (grown : larger.contains word = true)
    (reached : word.hasReached code = true) : larger.hasReached code = true :=
  contains_trans grown reached

theorem isExpired_of_contains
    {word larger : Word}
    (grown : larger.contains word = true)
    (gone : word.isExpired = true) : larger.isExpired = true := by
  rw [isExpired_eq_holds] at gone ⊢
  exact contains_iff.1 grown 0 gone

theorem find?_hasReached (word : Word) :
    Code.lifecycle.reverse.find? word.hasReached = some word.stage := by
  unfold stage
  cases found : Code.lifecycle.reverse.find? word.hasReached with
  | some code => rfl
  | none =>
      have unreached := List.find?_eq_none.1 found .undefined (by decide)
      exact absurd (contains_iff.2 (by simp [Code.word, Code.value, holds])) unreached

/-- The stage of a word is a stage of the lifecycle that it has reached. -/
theorem hasReached_stage (word : Word) : word.hasReached word.stage = true :=
  List.find?_some word.find?_hasReached

/-- No stage that comes later in the lifecycle is reached. -/
theorem idxOf_le_idxOf_stage
    {word : Word}
    {code : Code}
    (member : code ∈ Code.lifecycle)
    (reached : word.hasReached code = true) :
    Code.lifecycle.idxOf code ≤ Code.lifecycle.idxOf word.stage := by
  obtain ⟨-, later, earlier, reverse_eq, unreached⟩ :=
    List.find?_eq_some_iff_append.1 word.find?_hasReached
  have lifecycle_eq : Code.lifecycle = earlier.reverse ++ word.stage :: later.reverse := by
    rw [← List.reverse_reverse Code.lifecycle, reverse_eq]
    simp
  have distinct : Code.lifecycle.Nodup := by decide
  rw [lifecycle_eq] at member distinct ⊢
  have stage_notMem : word.stage ∉ earlier.reverse := by
    intro stage_mem
    exact (List.nodup_append.1 distinct).2.2 _ stage_mem _ List.mem_cons_self rfl
  rw [List.idxOf_append (a := word.stage), if_neg stage_notMem, List.idxOf_cons_self]
  rw [List.mem_append, List.mem_cons] at member
  rcases member with before | same | after
  · rw [List.idxOf_append, if_pos before]
    have inRange := List.idxOf_lt_length_of_mem before
    omega
  · rw [same, List.idxOf_append, if_neg stage_notMem, List.idxOf_cons_self]
  · have unreached_code := unreached code (List.mem_reverse.1 after)
    simp [reached] at unreached_code

theorem stage_mem_lifecycle (word : Word) : word.stage ∈ Code.lifecycle :=
  List.mem_reverse.1 (List.mem_of_find?_eq_some word.find?_hasReached)

/-- The stage of a word does not come later than the stage of a word that contains it. -/
theorem idxOf_stage_le_of_contains
    {word larger : Word}
    (grown : larger.contains word = true) :
    Code.lifecycle.idxOf word.stage ≤ Code.lifecycle.idxOf larger.stage :=
  idxOf_le_idxOf_stage word.stage_mem_lifecycle (hasReached_of_contains grown word.hasReached_stage)

/-- A word that contains another has reached its codes, and lists them in the same order. -/
theorem reached_sublist_of_contains
    {word larger : Word}
    (grown : larger.contains word = true) : word.reached.Sublist larger.reached :=
  List.monotone_filter_right Code.all fun _ => hasReached_of_contains grown

/-- The stage of a word is the last of the codes that it has reached, apart from those that are no
stages. -/
theorem getLast?_filter_reached (word : Word) :
    (word.reached.filter Code.isLifecycle).getLast? = some word.stage := by
  have lifecycle_eq : Code.all.filter Code.isLifecycle = Code.lifecycle := by decide
  rw [reached, List.filter_comm, lifecycle_eq, List.getLast?_filter, find?_hasReached]

/-- What the second of two words says about an object goes no way back from what the first says. -/
structure IsNoStepBack (before after : Word) : Prop where
  /-- Every bit is kept. -/
  contains_eq : after.contains before = true
  /-- The stage is the same or a later one. -/
  stage_le : Code.lifecycle.idxOf before.stage ≤ Code.lifecycle.idxOf after.stage
  /-- What was ready is ready. -/
  isReady : before.isReady = true → after.isReady = true
  /-- What was active is active. -/
  isActive : before.isActive = true → after.isActive = true
  /-- What had expired has expired. -/
  isExpired : before.isExpired = true → after.isExpired = true

/-- A word that keeps every bit of another is no step back from it. -/
theorem isNoStepBack_of_contains
    {before after : Word}
    (grown : after.contains before = true) : IsNoStepBack before after where
  contains_eq := grown
  stage_le := idxOf_stage_le_of_contains grown
  isReady := hasReached_of_contains grown
  isActive := hasReached_of_contains grown
  isExpired := isExpired_of_contains grown

end Word
end ObjectStatus
