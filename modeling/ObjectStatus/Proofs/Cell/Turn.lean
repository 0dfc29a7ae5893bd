import ObjectStatus.Cell.Interleaving
import ObjectStatus.Proofs.Cell.Specification

/-!
# Turns at a shared cell

A call takes effect in one of its turns: the one with its last access to the word. This module
says once what a turn can do. Either a call takes effect in it, with the word and the answer that
the call has by itself, or the word stays as it is and every call of the thread stands where it
stood. Statements about whole schedules are derived from these two cases.
-/

namespace ObjectStatus
namespace Cell

/-- A promotion goes on to an exchange only with a word that it may promote. -/
def Pending.IsSound : Pending → Prop
  | .exchange target seen =>
      target.isLifecycle = true ∧ seen.isExpired = false ∧ seen.hasReached target = false
  | .record _ _ => True

namespace Progress

/-- The call needs no further access to the word. -/
def isSettled : Progress → Bool
  | .underWay (.exchange _ _) => false
  | _ => true

@[simp] theorem isSettled_replaced
    (source target : Word)
    (answer : Answer) : (replaced source target answer).isSettled = true := by
  unfold replaced
  cases Transition.ofWords? source target <;> rfl

@[simp] theorem isSettled_exchange
    (target : Code)
    (seen : Word) : (underWay (.exchange target seen)).isSettled = false := rfl

@[simp] theorem replaced_self
    (word : Word)
    (answer : Answer) : replaced word word answer = .finished answer := by
  simp [replaced]

end Progress

namespace Call

/-- The turn in which a call takes effect. -/
def outcome (call : Call) (word : Word) : Word × Progress :=
  ((call.effect word).word, .replaced word (call.effect word).word (call.effect word).answer)

/-- A promotion that looks at the word takes effect, or goes on to an exchange. -/
theorem examined_cases
    {target : Code}
    (stage : target.isLifecycle = true)
    (word : Word) :
    (word, Progress.examined target word) = outcome (.promote target) word ∨
      Progress.examined target word = .underWay (.exchange target word) ∧
        (Pending.exchange target word).IsSound := by
  unfold Progress.examined outcome effect Pending.IsSound
  by_cases gone : word.isExpired = true
  · simp [stage, gone]
  · by_cases reached : word.hasReached target = true
    · simp [stage, gone, reached]
    · simp [stage, gone, reached]

/-- A call takes effect in its first turn, unless it is a promotion that goes on to an
exchange. -/
theorem begin_cases (call : Call) (word : Word) :
    call.begin word = call.outcome word ∨
      ∃ target, call = .promote target ∧
        call.begin word = (word, .underWay (.exchange target word)) ∧
        (Pending.exchange target word).IsSound := by
  cases call with
  | set code => exact Or.inl rfl
  | insert bits => exact Or.inl rfl
  | transition source target =>
      left
      by_cases expected : word = source.word
      · simp [begin, outcome, effect, expected]
      · simp [begin, outcome, effect, expected]
  | promote target =>
      by_cases stage : target.isLifecycle = true
      · rcases examined_cases stage word with settled | ⟨goesOn, sound⟩
        · left
          simpa [begin, stage] using settled
        · right
          refine ⟨target, rfl, ?_, sound⟩
          simp [begin, stage, goesOn]
      · left
        simp [begin, outcome, effect, stage]

/-- A promotion takes effect in an exchange, unless it goes on to the next one. -/
theorem exchange_cases
    {target : Code}
    {seen : Word}
    (sound : (Pending.exchange target seen).IsSound)
    (word : Word) :
    exchange target seen word = outcome (.promote target) word ∨
      exchange target seen word = (word, .underWay (.exchange target word)) ∧
        (Pending.exchange target word).IsSound := by
  obtain ⟨stage, alive, unreached⟩ := sound
  by_cases same : word = seen
  · left
    subst same
    rw [outcome, effect_promote stage alive]
    simp [exchange]
  · rcases examined_cases stage word with settled | ⟨goesOn, sound⟩
    · left
      simpa [exchange, same] using settled
    · right
      refine ⟨?_, sound⟩
      simp [exchange, same, goesOn]

end Call

namespace Thread

/-- The calls that have not taken effect yet, in order. -/
def remaining (thread : Thread) : List Call :=
  match thread.pending with
  | some (.exchange target _) => .promote target :: thread.calls
  | _ => thread.calls

/-- The answers of the calls that have taken effect, oldest first. -/
def settled (thread : Thread) : List Answer :=
  match thread.pending with
  | some (.record _ answer) => thread.answers ++ [answer]
  | _ => thread.answers

/-- The change that the thread still has to hand to the log, if there is one. -/
def owed (thread : Thread) : List Transition :=
  match thread.pending with
  | some (.record change _) => [change]
  | _ => []

/-- How many calls the thread has begun. -/
def begun (thread : Thread) : Nat :=
  thread.answers.length + thread.pending.toList.length

/-- A promotion that is under way may be promoted from the word that it has read. -/
def IsSound (thread : Thread) : Prop :=
  ∀ pending ∈ thread.pending, pending.IsSound

/-- The call that takes effect when the thread has its turn at this word, if one does. -/
def takesEffect?
    (thread : Thread)
    (word : Word) : Option Call :=
  match thread.pending with
  | some (.exchange target seen) =>
      if (Call.exchange target seen word).2.isSettled then some (.promote target) else none
  | some (.record _ _) => none
  | none =>
      match thread.calls with
      | [] => none
      | call :: _ => if (call.begin word).2.isSettled then some call else none

@[simp] theorem remaining_advance_replaced
    (thread : Thread)
    (source target : Word)
    (answer : Answer) :
    (thread.advance (.replaced source target answer)).remaining = thread.calls := by
  unfold Progress.replaced
  cases Transition.ofWords? source target <;> rfl

@[simp] theorem settled_advance_replaced
    (thread : Thread)
    (source target : Word)
    (answer : Answer) :
    (thread.advance (.replaced source target answer)).settled = thread.answers ++ [answer] := by
  unfold Progress.replaced
  cases Transition.ofWords? source target <;> rfl

@[simp] theorem owed_advance_replaced
    (thread : Thread)
    (source target : Word)
    (answer : Answer) :
    (thread.advance (.replaced source target answer)).owed =
      (Transition.ofWords? source target).toList := by
  unfold Progress.replaced
  cases Transition.ofWords? source target <;> rfl

@[simp] theorem remaining_advance_exchange
    (thread : Thread)
    (target : Code)
    (seen : Word) :
    (thread.advance (.underWay (.exchange target seen))).remaining =
      .promote target :: thread.calls := rfl

@[simp] theorem settled_advance_exchange
    (thread : Thread)
    (target : Code)
    (seen : Word) :
    (thread.advance (.underWay (.exchange target seen))).settled = thread.answers := rfl

@[simp] theorem owed_advance_exchange
    (thread : Thread)
    (target : Code)
    (seen : Word) :
    (thread.advance (.underWay (.exchange target seen))).owed = [] := rfl

theorem isSound_advance_replaced
    (thread : Thread)
    (source target : Word)
    (answer : Answer) :
    (thread.advance (.replaced source target answer)).IsSound := by
  unfold Progress.replaced
  cases Transition.ofWords? source target <;> simp [advance, IsSound, Pending.IsSound]

theorem length_settled_le_begun (thread : Thread) :
    thread.settled.length ≤ thread.begun := by
  obtain ⟨pending, calls, answers⟩ := thread
  rcases pending with _ | ⟨⟨target, seen⟩ | ⟨change, answer⟩⟩ <;> simp [settled, begun]

/-- A thread has got the answers of its settled calls, except perhaps that of the last one. -/
theorem answers_prefix_settled (thread : Thread) : thread.answers <+: thread.settled := by
  obtain ⟨pending, calls, answers⟩ := thread
  rcases pending with _ | ⟨⟨target, seen⟩ | ⟨change, answer⟩⟩
  · exact List.prefix_refl _
  · exact List.prefix_refl _
  · exact List.prefix_append _ _

theorem length_answers_le_settled (thread : Thread) :
    thread.answers.length ≤ thread.settled.length :=
  thread.answers_prefix_settled.length_le

/-- A thread that is done has nothing left to do and owes nothing. -/
theorem eq_of_isDone
    {thread : Thread}
    (done : thread.isDone = true) :
    thread = ⟨none, [], thread.answers⟩ := by
  obtain ⟨pending, calls, answers⟩ := thread
  simp only [isDone, Bool.and_eq_true, Option.isNone_iff_eq_none, List.isEmpty_iff] at done
  simp [done]

/-- A thread is done when nothing that takes a turn is left of it. -/
theorem isDone_of_needs
    {thread : Thread}
    {cost : Pending → Nat}
    {each : Nat}
    (cost_pos : ∀ pending, 0 < cost pending)
    (each_pos : 0 < each)
    (nothing : thread.pending.elim 0 cost + each * thread.calls.length = 0) :
    thread.isDone = true := by
  obtain ⟨pending_eq, calls_eq⟩ := Nat.add_eq_zero_iff.1 nothing
  obtain ⟨pending, calls, answers⟩ := thread
  cases pending with
  | none =>
      have no_calls := (Nat.mul_eq_zero.1 calls_eq).resolve_left (Nat.ne_of_gt each_pos)
      obtain rfl := List.length_eq_zero_iff.1 no_calls
      rfl
  | some pending => exact absurd pending_eq (Nat.ne_of_gt (cost_pos pending))

end Thread

/-- A call takes effect between two moments of a thread and the word that it shares. -/
structure Settles
    (call : Call)
    (before after : Shared × Thread) : Prop where
  /-- The call was the next one to take effect. -/
  remaining_eq : before.2.remaining = call :: after.2.remaining
  /-- Its answer is the one that it gives by itself. -/
  settled_eq : after.2.settled = before.2.settled ++ [(call.effect before.1.word).answer]
  /-- It leaves the word that it leaves by itself. -/
  word_eq : after.1.word = (call.effect before.1.word).word

/-- No call takes effect between two moments of a thread and the word that it shares. -/
structure Rests (before after : Shared × Thread) : Prop where
  remaining_eq : after.2.remaining = before.2.remaining
  settled_eq : after.2.settled = before.2.settled
  word_eq : after.1.word = before.1.word

/-- Whatever a turn does to the word, the thread owes the log what the word has changed, until it
hands it over. -/
def KeepsAccount (before after : Shared × Thread) : Prop :=
  after.1.recorded ++ after.2.owed =
    before.1.recorded ++ before.2.owed ++
      (Transition.ofWords? before.1.word after.1.word).toList

/-- What a turn can do to a sound thread. -/
structure TurnSpec (shared : Shared) (thread : Thread) : Prop where
  /-- The thread stays sound. -/
  sound : (turn shared thread).2.IsSound
  /-- A call that takes effect does all that it does by itself. -/
  settles : ∀ call, thread.takesEffect? shared.word = some call →
    Settles call (shared, thread) (turn shared thread)
  /-- In every other turn nothing is gained or lost. -/
  rests : thread.takesEffect? shared.word = none →
    Rests (shared, thread) (turn shared thread)
  /-- The log gets what it is owed. -/
  account : KeepsAccount (shared, thread) (turn shared thread)

/-- The turn in which a call takes effect. -/
theorem turnSpec_of_outcome
    {shared : Shared}
    {thread : Thread}
    (before : Thread)
    (call : Call)
    (turn_eq : turn shared thread =
      ({ shared with word := (call.outcome shared.word).1 },
        before.advance (call.outcome shared.word).2))
    (answers_eq : thread.settled = before.answers)
    (remaining_eq : thread.remaining = call :: before.calls)
    (owed_eq : thread.owed = [])
    (takesEffect : thread.takesEffect? shared.word = some call) :
    TurnSpec shared thread where
  sound := by
    rw [turn_eq]
    exact before.isSound_advance_replaced _ _ _
  settles := by
    intro other other_takesEffect
    rw [takesEffect, Option.some.injEq] at other_takesEffect
    subst other_takesEffect
    rw [turn_eq]
    exact
      { remaining_eq := by simp [remaining_eq, Call.outcome]
        settled_eq := by simp [answers_eq, Call.outcome]
        word_eq := rfl }
  rests := by
    intro none_takesEffect
    rw [takesEffect] at none_takesEffect
    contradiction
  account := by
    rw [turn_eq]
    simp [KeepsAccount, owed_eq, Call.outcome]

/-- The turn in which a promotion goes on to an exchange. -/
theorem turnSpec_of_goesOn
    {shared : Shared}
    {thread : Thread}
    (before : Thread)
    (target : Code)
    (turn_eq : turn shared thread =
      (shared, before.advance (.underWay (.exchange target shared.word))))
    (sound : (Pending.exchange target shared.word).IsSound)
    (answers_eq : thread.settled = before.answers)
    (remaining_eq : thread.remaining = .promote target :: before.calls)
    (owed_eq : thread.owed = [])
    (takesEffect : thread.takesEffect? shared.word = none) :
    TurnSpec shared thread where
  sound := by
    rw [turn_eq]
    simpa [Thread.advance, Thread.IsSound] using sound
  settles := by
    intro call call_takesEffect
    rw [takesEffect] at call_takesEffect
    contradiction
  rests := by
    intro _
    rw [turn_eq]
    exact
      { remaining_eq := by simp [remaining_eq]
        settled_eq := by simp [answers_eq]
        word_eq := rfl }
  account := by
    rw [turn_eq]
    simp [KeepsAccount, owed_eq]

/-- Every turn of a sound thread meets the specification. -/
theorem turnSpec
    (shared : Shared)
    {thread : Thread}
    (sound : thread.IsSound) : TurnSpec shared thread := by
  obtain ⟨pending, calls, answers⟩ := thread
  rcases pending with _ | ⟨⟨target, seen⟩ | ⟨change, answer⟩⟩
  · cases calls with
    | nil =>
        exact
          { sound := sound
            settles := by simp [Thread.takesEffect?]
            rests := fun _ => ⟨rfl, rfl, rfl⟩
            account := by simp [KeepsAccount, turn] }
    | cons call rest =>
        rcases call.begin_cases shared.word with settled | ⟨target, rfl, goesOn, exchangeSound⟩
        · refine turnSpec_of_outcome ⟨none, rest, answers⟩ call ?_ ?_ ?_ ?_ ?_
          · simp [turn, settled]
          · rfl
          · rfl
          · rfl
          · simp [Thread.takesEffect?, settled, Call.outcome]
        · refine turnSpec_of_goesOn ⟨none, rest, answers⟩ target ?_ ?_ ?_ ?_ ?_ ?_
          · simp [turn, goesOn]
          · exact exchangeSound
          · rfl
          · rfl
          · rfl
          · simp [Thread.takesEffect?, goesOn]
  · have exchangeSound : (Pending.exchange target seen).IsSound := sound _ rfl
    rcases Call.exchange_cases exchangeSound shared.word with settled | ⟨goesOn, nextSound⟩
    · refine turnSpec_of_outcome ⟨some (.exchange target seen), calls, answers⟩
        (.promote target) ?_ ?_ ?_ ?_ ?_
      · simp [turn, settled]
      · rfl
      · rfl
      · rfl
      · simp [Thread.takesEffect?, settled, Call.outcome]
    · refine turnSpec_of_goesOn ⟨some (.exchange target seen), calls, answers⟩
        target ?_ ?_ ?_ ?_ ?_ ?_
      · simp [turn, goesOn]
      · exact nextSound
      · rfl
      · rfl
      · rfl
      · simp [Thread.takesEffect?, goesOn]
  · exact
      { sound := by simp [turn, Thread.advance, Thread.IsSound]
        settles := by simp [Thread.takesEffect?]
        rests := fun _ => ⟨rfl, rfl, rfl⟩
        account := by simp [KeepsAccount, turn, Thread.advance, Thread.owed] }

end Cell
end ObjectStatus
