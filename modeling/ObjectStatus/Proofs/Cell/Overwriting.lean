import ObjectStatus.Proofs.Cell.Sequence
import ObjectStatus.Proofs.Word.Inclusion

/-!
# Bits are lost to overwriting only

A bit that the word of a cell has lost was overwritten: by a call to set, which stores a code
without the bit, or by a transition from a code with the bit to one without it. Between such
operations the word can only grow. No promotion changes the word of an object that has expired, not
even one that has read the word before: its exchange fails, since the word that it has read was not
expired.
-/

namespace ObjectStatus
namespace Cell

/-- A call with this answer has overwritten the bit at this position. -/
inductive Clears (position : Nat) : Call → Answer → Prop
  /-- A code without the bit was stored. -/
  | stored {code : Code} (previous : Word) :
      code.word.holds position = false →
      Clears position (.set code) (.previous previous)
  /-- A code with the bit was exchanged for one without it. -/
  | moved {source target : Code} :
      source.word.holds position = true →
      target.word.holds position = false →
      Clears position (.transition source target) .moved

/-- A call that leaves a word without one of its bits has overwritten the bit. -/
theorem clears_of_specified
    {call : Call}
    {before after : Word}
    {answer : Answer}
    {position : Nat}
    (specified : Specified call before answer after)
    (held : before.holds position = true)
    (lost : after.holds position = false) : Clears position call answer := by
  have same_holds : before.holds position ≠ false := by
    rw [held]
    decide
  have insert_holds (bits : Word) : (before.insert bits).holds position ≠ false := by
    rw [Word.holds_insert, held, Bool.true_or]
    decide
  cases specified with
  | set code => exact .stored before lost
  | insert bits => exact absurd lost (insert_holds bits)
  | moved source target => exact .moved held lost
  | mismatched => exact absurd lost same_holds
  | notLifecycle => exact absurd lost same_holds
  | expired => exact absurd lost same_holds
  | promoted => exact absurd lost (insert_holds _)

/-- Operations that leave a word without one of its bits have overwritten the bit, one of them. -/
theorem exists_clears_of_replays
    {before after : Word}
    {operations : List Operation}
    {position : Nat}
    (replays : Replays before operations after)
    (held : before.holds position = true)
    (lost : after.holds position = false) :
    ∃ operation ∈ operations, Clears position operation.call operation.answer := by
  induction replays with
  | nil word =>
      rw [held] at lost
      contradiction
  | @cons before middle after operation rest specified _ inductionHypothesis =>
      cases still : middle.holds position with
      | false => exact ⟨operation, List.mem_cons_self, clears_of_specified specified held still⟩
      | true =>
          obtain ⟨later, later_mem, clears⟩ := inductionHypothesis still lost
          exact ⟨later, List.mem_cons_of_mem operation later_mem, clears⟩

/-- What the word of a cell may lose between two moments, given the operations that take effect in
between. -/
structure LosesByOverwriting
    (before : Word)
    (operations : List Operation)
    (after : Word) : Prop where
  /-- A bit that was set at the first moment and is clear at the second was overwritten. -/
  exists_clears : ∀ position,
    before.holds position = true →
    after.holds position = false →
    ∃ operation ∈ operations, Clears position operation.call operation.answer
  /-- Where none of the bits is overwritten, there is no step back. -/
  isNoStepBack :
    (∀ position, before.holds position = true →
      ∀ operation ∈ operations, ¬Clears position operation.call operation.answer) →
    Word.IsNoStepBack before after

/-- Operations made one after another take bits away only by overwriting them. -/
theorem losesByOverwriting_of_replays
    {before after : Word}
    {operations : List Operation}
    (replays : Replays before operations after) :
    LosesByOverwriting before operations after where
  exists_clears := by
    intro position held lost
    exact exists_clears_of_replays replays held lost
  isNoStepBack := by
    intro untouched
    apply Word.isNoStepBack_of_contains
    rw [Word.contains_iff]
    intro position held
    by_contra lost
    obtain ⟨operation, member, clears⟩ :=
      exists_clears_of_replays replays held (Bool.eq_false_iff.2 lost)
    exact untouched position held operation member clears

/-- A promotion leaves the word of an expired object as it is. -/
theorem word_effect_promote_of_isExpired
    (target : Code)
    {word : Word}
    (gone : word.isExpired = true) : (Call.effect (.promote target) word).word = word := by
  cases stage : target.isLifecycle with
  | false => simp [Call.effect, stage]
  | true => simp [Call.effect, stage, gone]

namespace System

/-- A turn of a thread at a promotion leaves the word of an expired object as it is, whatever the
promotion has read before. -/
theorem word_step_of_current?_promote
    {word : Word}
    {programs : List (List Call)}
    {schedule : List Nat}
    {number : Nat}
    {target : Code}
    (promoting :
      current? programs ((start word programs).run schedule) number = some (.promote target))
    (gone : ((start word programs).run schedule).shared.word.isExpired = true) :
    (((start word programs).run schedule).step number).shared.word =
      ((start word programs).run schedule).shared.word := by
  have sound := (isSound_start word programs).run schedule
  have spec := turnSpec ((start word programs).run schedule).shared (sound number)
  rw [shared_step]
  cases effective :
      (((start word programs).run schedule).thread number).takesEffect?
        ((start word programs).run schedule).shared.word with
  | none => exact (spec.rests effective).word_eq
  | some call =>
      have current_eq := current?_of_takesEffect? (by rw [takesEffect?, effective]; rfl)
      rw [promoting, Option.some.injEq] at current_eq
      have word_eq := (spec.settles call effective).word_eq
      dsimp only at current_eq word_eq
      rw [word_eq, ← current_eq, word_effect_promote_of_isExpired target gone]

/-- Bits of a cell that starts with this word are lost to overwriting only, and expiry is not
undone by promotion. -/
structure KeepsBits (word : Word) : Prop where
  /-- For a caller that has the cell to itself, between any two of its calls. -/
  alone : ∀ before during : List Call,
    LosesByOverwriting
      (wordAfter before word)
      (operationsAlone before.length during (wordAfter before word))
      (wordAfter (before ++ during) word)
  /-- For threads that share the cell, between any two turns of any schedule. -/
  shared : ∀ (programs : List (List Call)) (before during : List Nat),
    LosesByOverwriting
      ((start word programs).run before).shared.word
      (((start word programs).run before).linearization during)
      ((start word programs).run (before ++ during)).shared.word
  /-- A promotion finds the object expired and leaves the word as it is. -/
  promote_alone : ∀ (before : List Call) (target : Code),
    (wordAfter before word).isExpired = true →
    wordAfter (before ++ [.promote target]) word = wordAfter before word
  /-- So it does in each of its turns, if the object has expired by then. -/
  promote_shared : ∀ (programs : List (List Call)) (before : List Nat) (number : Nat)
      (target : Code),
    current? programs ((start word programs).run before) number = some (.promote target) →
    ((start word programs).run before).shared.word.isExpired = true →
    ((start word programs).run (before ++ [number])).shared.word =
      ((start word programs).run before).shared.word

/-- Every cell keeps its bits until they are overwritten. -/
theorem keepsBits (word : Word) : KeepsBits word where
  alone := by
    intro before during
    rw [wordAfter_append]
    exact losesByOverwriting_of_replays (replays_operationsAlone _ _ _)
  shared := by
    intro programs before during
    rw [run_append]
    exact losesByOverwriting_of_replays
      (replays_linearization ((isSound_start word programs).run before) during)
  promote_alone := by
    intro before target gone
    rw [wordAfter_append]
    exact word_effect_promote_of_isExpired target gone
  promote_shared := by
    intro programs before number target promoting gone
    rw [run_append]
    exact word_step_of_current?_promote promoting gone

/-- A promotion that has read the word before the object expires changes nothing afterwards. -/
example :
    let before := (start Code.staged.word [[.promote .ready], [.expire]]).run [0, 1]
    current? [[.promote .ready], [.expire]] before 0 = some (.promote .ready) ∧
      before.shared.word = Code.expired.word ∧
      (before.step 0).shared.word = Code.expired.word := by
  decide

end System
end Cell
end ObjectStatus
