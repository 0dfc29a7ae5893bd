import ObjectStatus.Text.Record
import ObjectStatus.Word.Printer

/-!
# Transitions

A transition is the change of one word into another.
-/

namespace ObjectStatus

/-- A change from one word to another. -/
structure Transition where
  /-- The word before the change. -/
  source : Word
  /-- The word after the change. -/
  target : Word
  deriving DecidableEq

namespace Transition

/-- The two words are different. -/
def IsEffective (transition : Transition) : Prop :=
  transition.source ≠ transition.target

instance (transition : Transition) : Decidable transition.IsEffective :=
  inferInstanceAs (Decidable (_ ≠ _))

/-- The change from one word to another, when the two differ. -/
def ofWords? (source target : Word) : Option Transition :=
  if source = target then none else some ⟨source, target⟩

/-- The two words with an arrow between them. -/
def text (transition : Transition) : String :=
  transition.source.text ++ " -> " ++ transition.target.text

/-- The transition as a record. -/
def record (transition : Transition) : Text.Record :=
  ⟨"Transition", [("from", transition.source.debugText), ("to", transition.target.debugText)]⟩

/-- A change is found exactly when the words differ, and it is the change between them. -/
@[simp] theorem ofWords?_eq_some_iff
    {source target : Word}
    {transition : Transition} :
    ofWords? source target = some transition ↔
      source ≠ target ∧ transition = ⟨source, target⟩ := by
  unfold ofWords?
  split <;> simp_all [eq_comm]

/-- A word that stays as it is makes no change. -/
@[simp] theorem ofWords?_self (word : Word) : ofWords? word word = none := by
  simp [ofWords?]

end Transition
end ObjectStatus
