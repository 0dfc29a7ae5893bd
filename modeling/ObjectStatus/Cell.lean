import ObjectStatus.Error
import ObjectStatus.Transition

/-!
# Cells

A cell holds the status word of one object, and many callers may use it at once. This module says
what a call does when it has the cell to itself: the word that it leaves, the answer that it gives,
and the change to be recorded, if the word really changed. A call that is refused leaves the word
as it found it.
-/

namespace ObjectStatus

/-- The status of one object. -/
structure Cell where
  /-- The word that the object has now. -/
  word : Word
  /-- The number of the log that the changes go to, if there is one. -/
  log : Option Nat
  deriving DecidableEq

namespace Cell

/-- What a caller asks of a cell. -/
inductive Call
  /-- Hold this code, whatever the word was. -/
  | set (code : Code)
  /-- Set these bits as well. -/
  | insert (bits : Word)
  /-- Hold `target` if the word is exactly `source`. -/
  | transition (source target : Code)
  /-- Advance to at least this stage of the lifecycle. -/
  | promote (target : Code)
  deriving DecidableEq

/-- The object is created locally and not yet announced. -/
def Call.stage : Call := .set .staged

/-- The object has expired. -/
def Call.expire : Call := .set .expired

/-- What a caller gets back. -/
inductive Answer
  /-- The word before the call. -/
  | previous (word : Word)
  /-- The word after the call. -/
  | current (word : Word)
  /-- The word was the expected one and has been replaced. -/
  | moved
  /-- The call was refused and the word is unchanged. -/
  | refused (error : Error)
  deriving DecidableEq

namespace Answer

/-- The call did what it was asked for. -/
def succeeded : Answer → Bool
  | .refused _ => false
  | _ => true

end Answer

/-- What a call does to a word. -/
structure Effect where
  /-- The word that the call leaves. -/
  word : Word
  /-- The answer to the caller. -/
  answer : Answer
  deriving DecidableEq

namespace Call

/-- What a call does when nobody else uses the cell. A promotion asks first whether its target is a
stage, then whether the object has expired, and then whether the stage is reached already. -/
def effect : Call → Word → Effect
  | .set code, word => ⟨code.word, .previous word⟩
  | .insert bits, word => ⟨word.insert bits, .current (word.insert bits)⟩
  | .transition source target, word =>
      if word = source.word then
        ⟨target.word, .moved⟩
      else
        ⟨word, .refused (.mismatch source word)⟩
  | .promote target, word =>
      if target.isLifecycle = false then
        ⟨word, .refused (.notLifecycle target)⟩
      else if word.isExpired then
        ⟨word, .refused (.expired word)⟩
      else if word.hasReached target then
        ⟨word, .current word⟩
      else
        ⟨word.insert target.word, .current (word.insert target.word)⟩

/-- The change that a call makes to a word, if the word really changes. -/
def change? (call : Call) (word : Word) : Option Transition :=
  Transition.ofWords? word (call.effect word).word

@[simp] theorem effect_set (code : Code) (word : Word) :
    effect (.set code) word = ⟨code.word, .previous word⟩ := rfl

@[simp] theorem effect_insert (bits word : Word) :
    effect (.insert bits) word = ⟨word.insert bits, .current (word.insert bits)⟩ := rfl

/-- A refused call leaves the word as it was. -/
theorem word_effect_of_refused
    {call : Call}
    {word : Word}
    {error : Error}
    (refused : (call.effect word).answer = .refused error) :
    (call.effect word).word = word := by
  cases call with
  | set code => simp at refused
  | insert bits => simp at refused
  | transition source target =>
      simp only [effect] at refused ⊢
      split at refused <;> simp_all
  | promote target =>
      simp only [effect] at refused ⊢
      split at refused
      · simp_all
      · split at refused
        · simp_all
        · split at refused <;> simp_all

end Call

/-- The word of the cell as a record, with whether its changes are logged. -/
def debugRecord (cell : Cell) : Text.Record :=
  ⟨"StatusCell",
    [("word", cell.word.debugText), ("logged", Text.Record.ofBool cell.log.isSome)]⟩

end Cell
end ObjectStatus
