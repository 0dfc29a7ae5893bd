import ObjectStatus.Cell

/-!
# The sequential specification of a cell

The rules of this module say what a call may answer, and which word it may leave, when it has the
cell to itself. They ask for less than `Call.effect` decides: a promotion whose stage is reached
already has no rule of its own, because setting its bits changes nothing.
-/

namespace ObjectStatus
namespace Cell

/-- A call on the word `before` may give this answer and leave the word `after`. -/
inductive Specified : Call → (before : Word) → Answer → (after : Word) → Prop
  /-- The word is replaced, and the caller gets the old one. -/
  | set (code : Code) (before : Word) :
      Specified (.set code) before (.previous before) code.word
  /-- The bits are set, and the caller gets the new word. -/
  | insert (bits before : Word) :
      Specified (.insert bits) before (.current (before.insert bits)) (before.insert bits)
  /-- The word was exactly the expected one. -/
  | moved (source target : Code) :
      Specified (.transition source target) source.word .moved target.word
  /-- The word was another one, and the caller gets to see it. -/
  | mismatched {before : Word} (source target : Code) :
      before ≠ source.word →
      Specified (.transition source target) before (.refused (.mismatch source before)) before
  /-- The target is no stage of the lifecycle, whatever the word is. -/
  | notLifecycle {target : Code} (before : Word) :
      target ∉ Code.lifecycle →
      Specified (.promote target) before (.refused (.notLifecycle target)) before
  /-- The word carries the bit of an expired object. -/
  | expired {target : Code} {before : Word} :
      target ∈ Code.lifecycle →
      before.isExpired = true →
      Specified (.promote target) before (.refused (.expired before)) before
  /-- The bits of the stage are set, and the caller gets the new word. -/
  | promoted {target : Code} {before : Word} :
      target ∈ Code.lifecycle →
      before.isExpired = false →
      Specified (.promote target) before
        (.current (before.insert target.word)) (before.insert target.word)

namespace Call

/-- A promotion that is not refused sets the bits of its stage, reached or not. -/
theorem effect_promote
    {target : Code}
    {word : Word}
    (stage : target.isLifecycle = true)
    (alive : word.isExpired = false) :
    effect (.promote target) word =
      ⟨word.insert target.word, .current (word.insert target.word)⟩ := by
  by_cases reached : word.hasReached target = true
  · have unchanged : word.insert target.word = word := Word.insert_eq_self_iff.2 reached
    simp [effect, stage, alive, reached, unchanged]
  · simp [effect, stage, alive, reached]

/-- What a call does is what the rules allow. -/
theorem specified_effect (call : Call) (word : Word) :
    Specified call word (call.effect word).answer (call.effect word).word := by
  cases call with
  | set code => exact .set code word
  | insert bits => exact .insert bits word
  | transition source target =>
      by_cases expected : word = source.word
      · subst expected
        simpa [effect] using Specified.moved source target
      · simpa [effect, expected] using Specified.mismatched source target expected
  | promote target =>
      by_cases stage : target.isLifecycle = true
      · have member : target ∈ Code.lifecycle := List.contains_iff_mem.1 stage
        by_cases gone : word.isExpired = true
        · simpa [effect, stage, gone] using Specified.expired member gone
        · rw [effect_promote stage (by simpa using gone)]
          exact .promoted member (by simpa using gone)
      · have outside : target ∉ Code.lifecycle := by
          intro member
          exact stage (List.contains_iff_mem.2 member)
        simpa [effect, stage] using Specified.notLifecycle word outside

end Call

/-- The rules leave no choice: they allow exactly what a call does. -/
theorem specified_iff
    {call : Call}
    {before after : Word}
    {answer : Answer} :
    Specified call before answer after ↔ call.effect before = ⟨after, answer⟩ := by
  constructor
  · intro specified
    cases specified with
    | set code => rfl
    | insert bits => rfl
    | moved source target => simp [Call.effect]
    | mismatched source target differs => simp [Call.effect, differs]
    | notLifecycle _ outside =>
        have refused : Code.isLifecycle _ = false :=
          Bool.eq_false_iff.2 fun stage => outside (List.contains_iff_mem.1 stage)
        simp [Call.effect, refused]
    | expired member gone =>
        have stage : Code.isLifecycle _ = true := List.contains_iff_mem.2 member
        simp [Call.effect, stage, gone]
    | promoted member alive =>
        exact Call.effect_promote (List.contains_iff_mem.2 member) alive
  · intro effect_eq
    have specified := Call.specified_effect call before
    rwa [effect_eq] at specified

end Cell
end ObjectStatus
