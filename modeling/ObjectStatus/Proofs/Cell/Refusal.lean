import ObjectStatus.Proofs.Cell.Specification
import ObjectStatus.Proofs.Word.Inclusion

/-!
# Calls that leave the word alone

A call leaves the word of a cell as it is for one of two reasons: it is refused, or the word is
already what the call asks for. This module states both by the word alone, and shows that there is
no third one. A refusal says what the caller got wrong: the word that was found is the current one,
and a code that is no stage is refused before anyone looks at the word.
-/

namespace ObjectStatus
namespace Cell

/-- At this word the call is refused with this error. -/
inductive Refuses : Call → Word → Error → Prop
  /-- The word is another one than the expected code. -/
  | mismatch {source target : Code} {word : Word} :
      word ≠ source.word →
      Refuses (.transition source target) word (.mismatch source word)
  /-- The target is no stage of the lifecycle, whether or not the object has expired. -/
  | notLifecycle {target : Code} (word : Word) :
      target ∉ Code.lifecycle →
      Refuses (.promote target) word (.notLifecycle target)
  /-- The target is a stage, and the word carries the lowest bit, that of an expired object. -/
  | expired {target : Code} {word : Word} :
      target ∈ Code.lifecycle →
      word.holds 0 = true →
      Refuses (.promote target) word (.expired word)

/-- The word is already what the call asks for. -/
inductive IsMet : Call → Word → Prop
  /-- The word is the code to be held. -/
  | set (code : Code) : IsMet (.set code) code.word
  /-- The bits are set. -/
  | insert {bits word : Word} :
      word.contains bits = true →
      IsMet (.insert bits) word
  /-- The word is the code to be moved from, which is also the code to be moved to. -/
  | transition (code : Code) : IsMet (.transition code code) code.word
  /-- The object lives and has reached the stage. -/
  | promote {target : Code} {word : Word} :
      target ∈ Code.lifecycle →
      word.holds 0 = false →
      word.contains target.word = true →
      IsMet (.promote target) word

namespace Call

/-- The conditions under which a call is refused, one for each kind of call. -/
def IsRefusedAt : Call → Word → Prop
  | .set _, _ => False
  | .insert _, _ => False
  | .transition source _, word => word ≠ source.word
  | .promote target, word => target ∉ Code.lifecycle ∨ word.holds 0 = true

theorem exists_refuses_iff
    {call : Call}
    {word : Word} : (∃ error, Refuses call word error) ↔ call.IsRefusedAt word := by
  constructor
  · rintro ⟨error, refuses⟩
    cases refuses with
    | mismatch differs => exact differs
    | notLifecycle _ outside => exact Or.inl outside
    | expired _ gone => exact Or.inr gone
  · intro refused
    cases call with
    | set code => exact refused.elim
    | insert bits => exact refused.elim
    | transition source target => exact ⟨_, .mismatch refused⟩
    | promote target =>
        by_cases stage : target ∈ Code.lifecycle
        · exact ⟨_, .expired stage (refused.resolve_left (not_not_intro stage))⟩
        · exact ⟨_, .notLifecycle word stage⟩

/-- A call is answered with an error exactly where it is refused with this error. -/
theorem answer_effect_eq_refused_iff
    {call : Call}
    {word : Word}
    {error : Error} :
    (call.effect word).answer = .refused error ↔ Refuses call word error := by
  constructor
  · intro refused
    have specified := call.specified_effect word
    rw [refused] at specified
    generalize (call.effect word).word = after at specified
    cases specified with
    | mismatched source target differs => exact .mismatch differs
    | notLifecycle _ outside => exact .notLifecycle word outside
    | expired stage gone => exact .expired stage (word.isExpired_eq_holds ▸ gone)
  · intro refuses
    cases refuses with
    | mismatch differs => rw [specified_iff.1 (.mismatched _ _ differs)]
    | notLifecycle _ outside => rw [specified_iff.1 (.notLifecycle word outside)]
    | expired stage gone =>
        rw [specified_iff.1 (.expired stage (word.isExpired_eq_holds.trans gone))]

/-- A call that leaves the word as it is and is not refused has been met. -/
theorem isMet_of_word_effect_eq_self
    {call : Call}
    {word : Word}
    (kept : (call.effect word).word = word)
    (accepted : ¬call.IsRefusedAt word) : IsMet call word := by
  cases call with
  | set code =>
      obtain rfl : code.word = word := kept
      exact .set code
  | insert bits => exact .insert (Word.insert_eq_self_iff.1 kept)
  | transition source target =>
      obtain rfl : word = source.word := not_not.1 accepted
      rw [specified_iff.1 (.moved source target)] at kept
      have same : target = source := by
        by_contra different
        exact Code.word_ne_word different kept
      subst same
      exact .transition target
  | promote target =>
      obtain ⟨stage, alive⟩ := not_or.1 accepted
      have stage : target ∈ Code.lifecycle := not_not.1 stage
      have alive : word.holds 0 = false := Bool.eq_false_iff.2 alive
      have promoted : (effect (.promote target) word).word = word.insert target.word := by
        rw [specified_iff.1 (.promoted stage (word.isExpired_eq_holds.trans alive))]
      exact .promote stage alive (Word.insert_eq_self_iff.1 (promoted.symm.trans kept))

/-- A call that is met leaves the word as it is. -/
theorem word_effect_of_isMet
    {call : Call}
    {word : Word}
    (met : IsMet call word) : (call.effect word).word = word := by
  cases met with
  | set code => rfl
  | insert present => exact Word.insert_eq_self_iff.2 present
  | transition code => rw [specified_iff.1 (.moved code code)]
  | promote stage alive reached =>
      rw [specified_iff.1 (.promoted stage (word.isExpired_eq_holds.trans alive))]
      exact Word.insert_eq_self_iff.2 reached

/-- A call leaves the word as it is exactly where it is refused or met. -/
theorem word_effect_eq_self_iff
    {call : Call}
    {word : Word} :
    (call.effect word).word = word ↔ call.IsRefusedAt word ∨ IsMet call word := by
  constructor
  · intro kept
    by_cases refused : call.IsRefusedAt word
    · exact Or.inl refused
    · exact Or.inr (isMet_of_word_effect_eq_self kept refused)
  · rintro (refused | met)
    · obtain ⟨error, refuses⟩ := exists_refuses_iff.2 refused
      exact word_effect_of_refused (answer_effect_eq_refused_iff.2 refuses)
    · exact word_effect_of_isMet met

end Call
end Cell
end ObjectStatus
