import ObjectStatus.Transition

/-!
# Trails of transitions

A trail leads from one word to another by transitions that leave no gap: each of them starts where
the one before it ended.
-/

namespace ObjectStatus
namespace Transition

/-- The transitions lead from the word `source` to the word `target` without a gap. -/
def IsTrail : (source : Word) → List Transition → (target : Word) → Prop
  | source, [], target => source = target
  | source, first :: rest, target => first.source = source ∧ IsTrail first.target rest target

@[simp] theorem isTrail_nil
    {source target : Word} : IsTrail source [] target ↔ source = target := Iff.rfl

@[simp] theorem isTrail_cons
    {source target : Word}
    {first : Transition}
    {rest : List Transition} :
    IsTrail source (first :: rest) target ↔
      first.source = source ∧ IsTrail first.target rest target := Iff.rfl

/-- A trail may be cut in two at the word that lies between the parts. -/
theorem isTrail_append
    {source target : Word}
    {first second : List Transition} :
    IsTrail source (first ++ second) target ↔
      ∃ middle, IsTrail source first middle ∧ IsTrail middle second target := by
  induction first generalizing source with
  | nil => simp
  | cons transition rest inductionHypothesis =>
      simp only [List.cons_append, isTrail_cons, inductionHypothesis]
      constructor
      · rintro ⟨starts, middle, left, right⟩
        exact ⟨middle, ⟨starts, left⟩, right⟩
      · rintro ⟨middle, ⟨starts, left⟩, right⟩
        exact ⟨starts, middle, left, right⟩

/-- The change between two words leads from the one to the other. -/
theorem isTrail_ofWords? (before after : Word) :
    IsTrail before (ofWords? before after).toList after := by
  by_cases same : before = after
  · simp [ofWords?, same]
  · simp [ofWords?, same]

theorem isEffective_of_mem_ofWords?
    {before after : Word}
    {transition : Transition}
    (member : transition ∈ (ofWords? before after).toList) :
    transition.IsEffective := by
  rw [Option.mem_toList, ofWords?_eq_some_iff] at member
  obtain ⟨differs, rfl⟩ := member
  exact differs

theorem IsTrail.target_getLast
    {source target : Word}
    {transitions : List Transition}
    (trail : IsTrail source transitions target)
    {newest : Transition}
    (last : transitions.getLast? = some newest) :
    newest.target = target := by
  obtain ⟨earlier, rfl⟩ := List.getLast?_eq_some_iff.1 last
  obtain ⟨middle, -, -, ends⟩ := isTrail_append.1 trail
  exact ends

/-- A trail enters a word as often as it leaves it, apart from its two ends. -/
theorem IsTrail.countP_target_add
    {source target : Word}
    {transitions : List Transition}
    (trail : IsTrail source transitions target)
    (word : Word) :
    transitions.countP (fun transition => transition.target = word) +
        (if source = word then 1 else 0) =
      transitions.countP (fun transition => transition.source = word) +
        (if target = word then 1 else 0) := by
  induction transitions generalizing source with
  | nil =>
      obtain rfl := isTrail_nil.1 trail
      rfl
  | cons first rest inductionHypothesis =>
      obtain ⟨rfl, rest_trail⟩ := isTrail_cons.1 trail
      have rest_balance := inductionHypothesis rest_trail
      simp only [List.countP_cons, decide_eq_true_eq]
      omega

end Transition
end ObjectStatus
