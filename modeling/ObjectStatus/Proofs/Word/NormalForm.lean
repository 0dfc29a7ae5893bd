import ObjectStatus.Proofs.Word.Inclusion
import ObjectStatus.Word.Program

/-!
# The normal form of a program

However long a program is, it keeps some bits of the word at hand, and then turns some bits over.
Which bits these are is worked out from the program alone, step by step, and two programs do the
same exactly if they agree on both. The spellings of a union cannot be told apart.

A program that never turns the whole word over is monotone: of two words it leaves more of the one
that had more, after every step, so this word has reached all that the other one has reached.
-/

namespace ObjectStatus
namespace Word

/-! ## Masks -/

/-- What a program does to a word: it keeps these bits and turns those over. -/
structure Mask where
  kept : Word
  turned : Word
  deriving DecidableEq

namespace Mask

/-- The word of which the bits are kept and then turned over. -/
def apply (mask : Mask) (word : Word) : Word :=
  ⟨(word.raw &&& mask.kept.raw) ^^^ mask.turned.raw⟩

/-- The mask that changes nothing. -/
def identity : Mask :=
  ⟨empty.complement, empty⟩

/-- The mask that sets bits. -/
def setting (bits : Word) : Mask :=
  ⟨bits.complement, bits⟩

/-- The mask that drops all bits but these. -/
def keeping (bits : Word) : Mask :=
  ⟨bits, empty⟩

/-- The mask that turns all bits over. -/
def turning : Mask :=
  ⟨empty.complement, empty.complement⟩

/-- What two masks do one after the other. -/
def comp (first second : Mask) : Mask :=
  ⟨first.kept.inter second.kept, second.apply first.turned⟩

@[simp] theorem holds_apply
    (mask : Mask)
    (word : Word)
    (position : Nat) :
    (mask.apply word).holds position =
      ((word.holds position && mask.kept.holds position) ^^ mask.turned.holds position) := by
  simp [holds, apply, Nat.testBit_and, Nat.testBit_xor]

@[simp] theorem apply_identity (word : Word) : identity.apply word = word := by
  apply ext_holds_of_lt
  intro position inRange
  simp [identity, holds_complement inRange]

@[simp] theorem apply_setting (bits word : Word) : (setting bits).apply word = word.insert bits := by
  apply ext_holds_of_lt
  intro position inRange
  rw [holds_apply, setting, holds_complement inRange, holds_insert]
  cases bits.holds position <;> simp

@[simp] theorem apply_keeping (bits word : Word) : (keeping bits).apply word = word.inter bits := by
  apply ext_holds
  intro position
  simp [keeping]

@[simp] theorem apply_turning (word : Word) : turning.apply word = word.complement := by
  apply ext_holds_of_lt
  intro position inRange
  simp [turning, holds_complement inRange]

/-- Two masks one after the other are one mask. -/
@[simp] theorem apply_comp
    (first second : Mask)
    (word : Word) : (first.comp second).apply word = second.apply (first.apply word) := by
  apply ext_holds
  intro position
  simp only [comp, holds_apply, holds_inter]
  rw [Bool.and_xor_distrib_right, Bool.and_assoc, Bool.xor_assoc]

/-- Different masks can be told apart: by the empty word, or by the word with all bits. -/
theorem eq_of_apply_eq
    {first second : Mask}
    (same : ∀ word, first.apply word = second.apply word) : first = second := by
  have same_turned (position : Nat) :
      first.turned.holds position = second.turned.holds position := by
    have same_bit := congrArg (fun word => word.holds position) (same empty)
    simpa only [holds_apply, holds_empty, Bool.false_and, Bool.false_xor] using same_bit
  have turned_eq : first.turned = second.turned := ext_holds same_turned
  have kept_eq : first.kept = second.kept := by
    apply ext_holds_of_lt
    intro position inRange
    have same_bit := congrArg (fun word => word.holds position) (same empty.complement)
    simpa only [holds_apply, holds_complement inRange, holds_empty, Bool.not_false, Bool.true_and,
      turned_eq, Bool.xor_left_inj] using same_bit
  cases first
  cases second
  rw [Mask.mk.injEq]
  exact ⟨kept_eq, turned_eq⟩

end Mask

/-! ## Programs -/

namespace Step

/-- The bits with which the step takes the union, if it is the spelling of a union. -/
def unionWith? : Step → Option Word
  | .insert bits => some bits
  | .remove _ => none
  | .union bits => some bits
  | .or bits => some bits
  | .orInPlace bits => some bits
  | .and _ => none
  | .orCode code => some code.word
  | .complement => none

/-- One step may stand for the other: they are the same, or they spell the union with the same
bits. -/
inductive StandsFor : Step → Step → Prop
  | same (step : Step) : StandsFor step step
  | union {first second : Step} {bits : Word} :
      first.unionWith? = some bits →
      second.unionWith? = some bits →
      StandsFor first second

/-- Every spelling of a union sets the bits. -/
theorem apply_eq_insert
    {step : Step}
    {bits : Word}
    (spelled : step.unionWith? = some bits)
    (word : Word) : step.apply word = word.insert bits := by
  cases step with
  | insert other =>
      obtain rfl := Option.some.inj spelled
      rfl
  | remove other => contradiction
  | union other =>
      obtain rfl := Option.some.inj spelled
      rfl
  | or other =>
      obtain rfl := Option.some.inj spelled
      rfl
  | orInPlace other =>
      obtain rfl := Option.some.inj spelled
      rfl
  | and other => contradiction
  | orCode code =>
      obtain rfl := Option.some.inj spelled
      rfl
  | complement => contradiction

theorem StandsFor.apply_eq
    {first second : Step}
    (standsFor : first.StandsFor second)
    (word : Word) : first.apply word = second.apply word := by
  cases standsFor with
  | same => rfl
  | union spelled_first spelled_second =>
      rw [apply_eq_insert spelled_first, apply_eq_insert spelled_second]

/-- What the step does to every word. -/
def mask : Step → Mask
  | .insert bits => .setting bits
  | .remove bits => .keeping bits.complement
  | .union bits => .setting bits
  | .or bits => .setting bits
  | .orInPlace bits => .setting bits
  | .and bits => .keeping bits
  | .orCode code => .setting code.word
  | .complement => .turning

@[simp] theorem apply_mask (step : Step) (word : Word) : step.mask.apply word = step.apply word := by
  cases step with
  | insert bits => exact Mask.apply_setting bits word
  | remove bits => exact Mask.apply_keeping bits.complement word
  | union bits => exact Mask.apply_setting bits word
  | or bits => exact Mask.apply_setting bits word
  | orInPlace bits => exact Mask.apply_setting bits word
  | and bits => exact Mask.apply_keeping bits word
  | orCode code => exact Mask.apply_setting code.word word
  | complement => exact Mask.apply_turning word

end Step

/-- What the program does to every word. -/
def normalForm : List Step → Mask
  | [] => .identity
  | step :: rest => step.mask.comp (normalForm rest)

/-- A program does what its normal form does. -/
theorem run_eq_apply_normalForm
    (program : List Step)
    (word : Word) : run program word = (normalForm program).apply word := by
  induction program generalizing word with
  | nil => exact (Mask.apply_identity word).symm
  | cons step rest inductionHypothesis =>
      rw [run_cons, inductionHypothesis, normalForm, Mask.apply_comp, Step.apply_mask]

/-- Steps that stand for each other may be exchanged anywhere. -/
theorem trace_eq_of_standsFor
    {program other : List Step}
    (exchanged : List.Forall₂ Step.StandsFor program other)
    (word : Word) : trace program word = trace other word := by
  induction exchanged generalizing word with
  | nil => rfl
  | cons standsFor _ inductionHypothesis =>
      rw [trace_cons, trace_cons, standsFor.apply_eq, inductionHypothesis]

/-! ## Monotone programs -/

/-- The second word is as far as the first one in all that a word says about progress. -/
structure IsReachedBy (word larger : Word) : Prop where
  /-- It has every bit. -/
  contains_eq : larger.contains word = true
  /-- It has reached every code. -/
  hasReached : ∀ code, word.hasReached code = true → larger.hasReached code = true
  /-- Its stage is the same or a later one. -/
  stage_le : Code.lifecycle.idxOf word.stage ≤ Code.lifecycle.idxOf larger.stage

theorem isReachedBy_of_contains
    {word larger : Word}
    (grown : larger.contains word = true) : IsReachedBy word larger where
  contains_eq := grown
  hasReached _ := hasReached_of_contains grown
  stage_le := idxOf_stage_le_of_contains grown

/-- Every step but the complement keeps words in order. -/
theorem Step.contains_apply
    {step : Step}
    (straight : step ≠ .complement)
    {word larger : Word}
    (grown : larger.contains word = true) : (step.apply larger).contains (step.apply word) = true := by
  cases step with
  | insert bits => exact contains_insert_insert grown bits
  | remove bits => exact contains_inter_inter grown bits.complement
  | union bits => exact contains_insert_insert grown bits
  | or bits => exact contains_insert_insert grown bits
  | orInPlace bits => exact contains_insert_insert grown bits
  | and bits => exact contains_inter_inter grown bits
  | orCode code => exact contains_insert_insert grown code.word
  | complement => contradiction

/-- So does every program without a complement, after every step. -/
theorem isReachedBy_trace
    {program : List Step}
    (straight : ∀ step ∈ program, step ≠ .complement)
    {word larger : Word}
    (grown : larger.contains word = true) :
    List.Forall₂ IsReachedBy (trace program word) (trace program larger) := by
  induction program generalizing word larger with
  | nil => exact .nil
  | cons step rest inductionHypothesis =>
      obtain ⟨first_straight, rest_straight⟩ := List.forall_mem_cons.1 straight
      have still_grown := Step.contains_apply first_straight grown
      exact .cons (isReachedBy_of_contains still_grown)
        (inductionHypothesis rest_straight still_grown)

theorem contains_run
    {program : List Step}
    (straight : ∀ step ∈ program, step ≠ .complement)
    {word larger : Word}
    (grown : larger.contains word = true) :
    (run program larger).contains (run program word) = true := by
  induction program generalizing word larger with
  | nil => exact grown
  | cons step rest inductionHypothesis =>
      obtain ⟨first_straight, rest_straight⟩ := List.forall_mem_cons.1 straight
      exact inductionHypothesis rest_straight (Step.contains_apply first_straight grown)

/-- What a program does is said by its normal form, for every word at the start. -/
structure HasNormalForm (program : List Step) : Prop where
  /-- The program keeps some bits and then turns some bits over. -/
  raw_run_eq : ∀ word,
    (run program word).raw =
      (word.raw &&& (normalForm program).kept.raw) ^^^ (normalForm program).turned.raw
  /-- Programs that do the same have the same normal form. -/
  normalForm_eq_iff : ∀ other,
    normalForm program = normalForm other ↔ ∀ word, run program word = run other word
  /-- Spellings of a union may stand for each other in any number of places, and no word on the way
  is another one. -/
  trace_eq : ∀ other, List.Forall₂ Step.StandsFor program other →
    ∀ word, trace program word = trace other word
  /-- If the whole word is never turned over, then of two words the larger one is as far as the
  other after every step. -/
  isReachedBy_trace : (∀ step ∈ program, step ≠ .complement) →
    ∀ word larger, larger.contains word = true →
      List.Forall₂ IsReachedBy (trace program word) (trace program larger)
  /-- In particular it is in the end. -/
  isReachedBy_run : (∀ step ∈ program, step ≠ .complement) →
    ∀ word larger, larger.contains word = true →
      IsReachedBy (run program word) (run program larger)

/-- Every program has its normal form. -/
theorem hasNormalForm (program : List Step) : HasNormalForm program where
  raw_run_eq word := congrArg raw (run_eq_apply_normalForm program word)
  normalForm_eq_iff other := by
    constructor
    · intro same word
      rw [run_eq_apply_normalForm, run_eq_apply_normalForm, same]
    · intro same
      apply Mask.eq_of_apply_eq
      intro word
      rw [← run_eq_apply_normalForm, ← run_eq_apply_normalForm, same]
  trace_eq _ := trace_eq_of_standsFor
  isReachedBy_trace straight _ _ := isReachedBy_trace straight
  isReachedBy_run straight _ _ grown := isReachedBy_of_contains (contains_run straight grown)

/-- Bits that are set and then turned over are clear, whatever the word was. -/
example :
    normalForm [.insert ⟨0x36⟩, .complement, .remove ⟨0x01⟩] = ⟨⟨0xC8⟩, ⟨0xC8⟩⟩ := by
  decide

end Word
end ObjectStatus
