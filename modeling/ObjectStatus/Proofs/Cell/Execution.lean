import Mathlib.Data.Nat.Init
import Mathlib.Order.Monotone.Basic
import ObjectStatus.Proofs.Cell.Sequence

/-!
# Moments of an execution

An execution is a system of threads together with the schedule of their turns. Its moments are
counted by the turns that are over, so the turn at a time lies between the moment with that number
and the next one. This module follows a single call from moment to moment: a call is named by its
thread and by how many calls the thread makes before it, and each turn of the thread either ends
the call or leaves it with something to do. Nothing that other threads do moves it on.
-/

namespace ObjectStatus
namespace Cell

/-! ## A turn of a call -/

namespace Thread

/-- In a turn at this word the thread loses an exchange: the word is another one than the promotion
has read. -/
def losesExchange (thread : Thread) (word : Word) : Bool :=
  match thread.pending with
  | some (.exchange _ seen) => decide (word ≠ seen)
  | _ => false

/-- In a turn at this word a promotion of the thread reads the word: for the first time, or because
it loses an exchange. -/
def readsWord (thread : Thread) (word : Word) : Bool :=
  match thread.pending, thread.calls with
  | none, .promote target :: _ => target.isLifecycle
  | _, _ => thread.losesExchange word

theorem losesExchange_iff
    {thread : Thread}
    {word : Word} :
    thread.losesExchange word = true ↔
      ∃ target seen, thread.pending = some (.exchange target seen) ∧ word ≠ seen := by
  obtain ⟨pending, calls, answers⟩ := thread
  rcases pending with _ | ⟨⟨target, seen⟩ | ⟨change, answer⟩⟩ <;> simp [losesExchange]

/-- A lost exchange has read the word. -/
theorem readsWord_of_losesExchange
    {thread : Thread}
    {word : Word}
    (loses : thread.losesExchange word = true) : thread.readsWord word = true := by
  obtain ⟨target, seen, pending_eq, -⟩ := losesExchange_iff.1 loses
  unfold readsWord
  rw [pending_eq]
  exact loses

/-- A promotion that reads the word when something is pending loses an exchange. -/
theorem losesExchange_of_readsWord
    {thread : Thread}
    {word : Word}
    (reads : thread.readsWord word = true)
    (underWay : thread.pending.isSome = true) : thread.losesExchange word = true := by
  obtain ⟨pending, calls, answers⟩ := thread
  cases pending with
  | none => contradiction
  | some pending => exact reads

/-- A thread that reads the word is not done. -/
theorem isDone_of_readsWord
    {thread : Thread}
    {word : Word}
    (reads : thread.readsWord word = true) : thread.isDone = false := by
  obtain ⟨pending, calls, answers⟩ := thread
  rcases pending with _ | pending
  · cases calls with
    | nil => contradiction
    | cons call rest => rfl
  · rfl

end Thread

/-- What a turn of a thread comes to for the call that it is making. -/
inductive Takes (shared : Shared) (before after : Thread) : Prop
  /-- The call returns. -/
  | returns (answer : Answer) :
      after.pending = none →
      after.answers = before.answers ++ [answer] →
      Takes shared before after
  /-- The call has taken effect and has still to hand its change to the log. -/
  | owes (change : Transition) (answer : Answer) :
      (∀ earlier answer, before.pending ≠ some (.record earlier answer)) →
      after.pending = some (.record change answer) →
      after.answers = before.answers →
      Takes shared before after
  /-- A promotion has read the word and goes on to an exchange. -/
  | reads (target : Code) :
      before.readsWord shared.word = true →
      (turn shared before).1 = shared →
      after.pending = some (.exchange target shared.word) →
      after.answers = before.answers →
      Takes shared before after

/-- A call that has made its last access to the word returns, or has only its change to hand
over. -/
theorem takes_replaced
    {shared : Shared}
    {before thread : Thread}
    (answers_eq : thread.answers = before.answers)
    (unrecorded : ∀ earlier answer, before.pending ≠ some (.record earlier answer))
    (source target : Word)
    (answer : Answer) :
    Takes shared before (thread.advance (.replaced source target answer)) := by
  unfold Progress.replaced
  cases Transition.ofWords? source target with
  | none => exact .returns answer rfl (by rw [← answers_eq]; rfl)
  | some change => exact .owes change answer unrecorded rfl answers_eq

/-- A promotion that has looked at the word returns, or goes on to an exchange. -/
theorem takes_examined
    {shared : Shared}
    {before thread : Thread}
    (answers_eq : thread.answers = before.answers)
    (reads : before.readsWord shared.word = true)
    (shared_eq : (turn shared before).1 = shared)
    (target : Code) :
    Takes shared before (thread.advance (.examined target shared.word)) := by
  unfold Progress.examined
  split
  · exact .returns _ rfl (by rw [← answers_eq]; rfl)
  · split
    · exact .returns _ rfl (by rw [← answers_eq]; rfl)
    · exact .reads target reads shared_eq rfl answers_eq

/-- A turn of a thread that is not done is a turn of one of its calls. -/
theorem takes_turn
    (shared : Shared)
    {thread : Thread}
    (busy : thread.isDone = false) : Takes shared thread (turn shared thread).2 := by
  obtain ⟨pending, calls, answers⟩ := thread
  rcases pending with _ | ⟨⟨target, seen⟩ | ⟨change, answer⟩⟩
  · cases calls with
    | nil => contradiction
    | cons call rest =>
        rcases call.begin_cases shared.word with settled | ⟨target, rfl, goesOn, -⟩
        · simp only [turn, settled]
          refine takes_replaced ?_ ?_ _ _ _
          · rfl
          · simp
        · by_cases stage : target.isLifecycle = true
          · have turn_eq : turn shared ⟨none, .promote target :: rest, answers⟩ =
                (shared, Thread.advance ⟨none, rest, answers⟩ (.examined target shared.word)) := by
              simp [turn, Call.begin, stage]
            have shared_eq := congrArg Prod.fst turn_eq
            rw [turn_eq]
            refine takes_examined ?_ ?_ shared_eq target
            · rfl
            · exact stage
          · simp [Call.begin, stage] at goesOn
  · by_cases same : shared.word = seen
    · simp only [turn, Call.exchange, if_pos same]
      refine takes_replaced ?_ ?_ _ _ _
      · rfl
      · simp
    · have turn_eq : turn shared ⟨some (.exchange target seen), calls, answers⟩ =
          (shared, Thread.advance ⟨some (.exchange target seen), calls, answers⟩
            (.examined target shared.word)) := by
        simp [turn, Call.exchange, same]
      have shared_eq := congrArg Prod.fst turn_eq
      rw [turn_eq]
      refine takes_examined ?_ ?_ shared_eq target
      · rfl
      · exact decide_eq_true same
  · exact .returns answer rfl rfl

/-- The call has returned or has something to do. -/
theorem Takes.length_answers
    {shared : Shared}
    {before after : Thread}
    (takes : Takes shared before after) :
    after.answers.length = before.answers.length + 1 ∨
      after.answers.length = before.answers.length ∧ after.pending.isSome = true := by
  cases takes with
  | returns answer pending_eq answers_eq => simp [answers_eq]
  | owes change answer unrecorded pending_eq answers_eq => simp [answers_eq, pending_eq]
  | reads target reads shared_eq pending_eq answers_eq => simp [answers_eq, pending_eq]

/-! ## Moments -/

/-- Threads that make these calls on a cell that holds this word, with the schedule of their
turns. -/
structure Execution where
  /-- The word at the start. -/
  word : Word
  /-- The calls of each thread, in order. -/
  programs : List (List Call)
  /-- The threads whose turn it is. -/
  schedule : List Nat
  deriving DecidableEq

namespace Execution

/-- The threads and what they share when this many turns are over. -/
def systemAt (execution : Execution) (time : Nat) : System :=
  (System.start execution.word execution.programs).run (execution.schedule.take time)

/-- The word when this many turns are over. -/
def wordAt (execution : Execution) (time : Nat) : Word :=
  (execution.systemAt time).shared.word

/-- The thread with this number when this many turns are over. -/
def threadAt (execution : Execution) (number time : Nat) : Thread :=
  (execution.systemAt time).thread number

variable {execution : Execution} {number index time : Nat}

/-- The next moment is one turn later. -/
theorem systemAt_succ (present : execution.schedule[time]? = some number) :
    execution.systemAt (time + 1) = (execution.systemAt time).step number := by
  rw [systemAt, List.take_add_one, present, System.run_append]
  rfl

/-- After the end nothing happens. -/
theorem systemAt_succ_of_none (absent : execution.schedule[time]? = none) :
    execution.systemAt (time + 1) = execution.systemAt time := by
  rw [systemAt, List.take_add_one, absent, Option.toList_none, List.append_nil]
  rfl

theorem isSound_systemAt
    (execution : Execution)
    (time : Nat) : (execution.systemAt time).IsSound :=
  (System.isSound_start _ _).run _

/-- A turn of another thread does not touch this one. -/
theorem threadAt_succ_of_ne (others : execution.schedule[time]? ≠ some number) :
    execution.threadAt number (time + 1) = execution.threadAt number time := by
  unfold threadAt
  cases present : execution.schedule[time]? with
  | none => rw [systemAt_succ_of_none present]
  | some other =>
      rw [systemAt_succ present]
      refine System.thread_step_of_ne ?_ _
      rintro rfl
      exact others present

theorem threadAt_succ_self (own : execution.schedule[time]? = some number) :
    execution.threadAt number (time + 1) =
      (turn (execution.systemAt time).shared (execution.threadAt number time)).2 := by
  rw [threadAt, systemAt_succ own]
  exact System.thread_step_self _ _

theorem wordAt_succ (present : execution.schedule[time]? = some number) :
    execution.wordAt (time + 1) =
      (turn (execution.systemAt time).shared (execution.threadAt number time)).1.word := by
  rw [wordAt, systemAt_succ present, System.shared_step]
  rfl

/-- The thread has no turn between these two. -/
def IsIdleBetween (execution : Execution) (number first last : Nat) : Prop :=
  ∀ between, first < between → between < last → execution.schedule[between]? ≠ some number

/-- A thread stands still as long as only others have their turns. -/
theorem IsIdleBetween.threadAt_eq
    {first moment last : Nat}
    (idle : execution.IsIdleBetween number first last)
    (after : first < moment)
    (before : moment ≤ last) :
    execution.threadAt number moment = execution.threadAt number (first + 1) := by
  induction moment, Nat.succ_le_of_lt after using Nat.le_induction with
  | base => rfl
  | succ moment later inductionHypothesis =>
      rw [threadAt_succ_of_ne (idle moment later before)]
      exact inductionHypothesis later (Nat.le_of_succ_le before)

/-- A word that is not the same at two moments was changed by a turn in between. -/
theorem exists_change
    {first last : Nat}
    (ordered : first ≤ last)
    (differs : execution.wordAt last ≠ execution.wordAt first) :
    ∃ change, first ≤ change ∧ change < last ∧
      execution.wordAt (change + 1) ≠ execution.wordAt change := by
  induction last, ordered using Nat.le_induction with
  | base => contradiction
  | succ last ordered inductionHypothesis =>
      by_cases same : execution.wordAt (last + 1) = execution.wordAt last
      · rw [same] at differs
        obtain ⟨change, after, before, changed⟩ := inductionHypothesis differs
        exact ⟨change, after, Nat.lt_succ_of_lt before, changed⟩
      · exact ⟨last, ordered, Nat.lt_succ_self last, same⟩

/-- The call that the thread is making, or will make next. -/
def currentAt? (execution : Execution) (number time : Nat) : Option Call :=
  System.current? execution.programs (execution.systemAt time) number

theorem currentAt?_eq
    (answered : (execution.threadAt number time).answers.length = index) :
    execution.currentAt? number time = (execution.programs.getD number [])[index]? := by
  rw [← answered]
  rfl

/-- A thread that has a call to make is not done. -/
theorem isDone_threadAt
    {call : Call}
    (current : execution.currentAt? number time = some call) :
    (execution.threadAt number time).isDone = false := by
  rw [Bool.eq_false_iff]
  intro done
  have idle := Thread.eq_of_isDone done
  obtain ⟨calls_eq, settled_eq⟩ := System.calls_eq_of_advances execution.word execution.programs
    (execution.schedule.take time) number
  change _ = _ ++ (execution.threadAt number time).remaining at calls_eq
  change (execution.threadAt number time).settled = _ at settled_eq
  have settled_answers :
      (execution.threadAt number time).settled = (execution.threadAt number time).answers := by
    rw [idle]
    rfl
  have program_length :
      (execution.programs.getD number []).length =
        (execution.threadAt number time).answers.length := by
    have nothing_left : (execution.threadAt number time).remaining = [] := by
      rw [idle]
      rfl
    rw [calls_eq, nothing_left, List.append_nil, ← settled_answers, settled_eq, List.length_map,
      List.length_map]
  have inRange := (List.getElem?_eq_some_iff.1 current).1
  rw [program_length] at inRange
  exact Nat.lt_irrefl _ inRange

/-- A call that takes effect in a turn is the one that the thread of the turn is making. -/
theorem currentAt?_of_mem_linearization
    {operation : Operation}
    (member : operation ∈ (execution.systemAt time).linearization [number]) :
    execution.currentAt? number time = some operation.call := by
  rw [System.linearization_cons, System.linearization_nil, List.append_nil,
    Option.mem_toList] at member
  exact System.current?_of_takesEffect? member

/-- Only a call that a thread is making changes the word, and it does what it does by itself. -/
theorem exists_call_of_change
    (changed : execution.wordAt (time + 1) ≠ execution.wordAt time) :
    ∃ number call,
      execution.schedule[time]? = some number ∧
        execution.currentAt? number time = some call ∧
        execution.wordAt (time + 1) = (call.effect (execution.wordAt time)).word := by
  cases present : execution.schedule[time]? with
  | none => exact absurd (by rw [wordAt, systemAt_succ_of_none present]; rfl) changed
  | some number =>
      have spec := turnSpec (execution.systemAt time).shared
        (execution.isSound_systemAt time number)
      have word_eq := wordAt_succ present
      cases effective :
          ((execution.systemAt time).thread number).takesEffect?
            (execution.systemAt time).shared.word with
      | none => exact absurd (word_eq.trans (spec.rests effective).word_eq) changed
      | some call =>
          have operation_eq : (execution.systemAt time).takesEffect? number =
              some
                { thread := number
                  index := ((execution.systemAt time).thread number).settled.length
                  call := call
                  answer := (call.effect (execution.wordAt time)).answer } := by
            rw [System.takesEffect?, effective]
            rfl
          exact ⟨number, call, rfl, System.current?_of_takesEffect? operation_eq,
            word_eq.trans (spec.settles call effective).word_eq⟩

/-! ## Answers -/

/-- No answer is lost in a turn. -/
theorem length_answers_le_succ (execution : Execution) (number time : Nat) :
    (execution.threadAt number time).answers.length ≤
      (execution.threadAt number (time + 1)).answers.length := by
  by_cases own : execution.schedule[time]? = some number
  · rw [threadAt_succ_self own]
    by_cases done : (execution.threadAt number time).isDone = true
    · rw [Thread.eq_of_isDone done]
      exact Nat.le_refl _
    · have length_eq :=
        (takes_turn (execution.systemAt time).shared (Bool.eq_false_iff.2 done)).length_answers
      omega
  · exact (congrArg (·.answers.length) (threadAt_succ_of_ne own)).ge

theorem length_answers_le
    (execution : Execution)
    (number : Nat)
    {first last : Nat}
    (ordered : first ≤ last) :
    (execution.threadAt number first).answers.length ≤
      (execution.threadAt number last).answers.length :=
  monotone_nat_of_le_succ (execution.length_answers_le_succ number) ordered

/-- Between two moments at which a thread is at the same call it is at no other. -/
theorem length_answers_eq_of_between
    {first between last : Nat}
    (first_eq : (execution.threadAt number first).answers.length = index)
    (last_eq : (execution.threadAt number last).answers.length = index)
    (after : first ≤ between)
    (before : between ≤ last) :
    (execution.threadAt number between).answers.length = index := by
  have first_le := execution.length_answers_le number after
  have le_last := execution.length_answers_le number before
  omega

/-! ## Calls under way -/

/-- The thread has begun the call with this index and has not got its answer. -/
def IsUnderWay (execution : Execution) (number index time : Nat) : Prop :=
  (execution.threadAt number time).answers.length = index ∧
    (execution.threadAt number time).pending.isSome = true

instance (execution : Execution) (number index time : Nat) :
    Decidable (execution.IsUnderWay number index time) :=
  inferInstanceAs (Decidable (_ ∧ _))

/-- It is the turn of the thread that makes the call with this index, and it has not got its answer
yet. -/
def IsOwnTurn (execution : Execution) (number index time : Nat) : Prop :=
  execution.schedule[time]? = some number ∧
    (execution.threadAt number time).answers.length = index

instance (execution : Execution) (number index time : Nat) :
    Decidable (execution.IsOwnTurn number index time) :=
  inferInstanceAs (Decidable (_ ∧ _))

/-- No turn of the thread comes between two that have none in between. -/
theorem IsOwnTurn.le_of_isIdleBetween
    {earlier first last : Nat}
    (own : execution.IsOwnTurn number index earlier)
    (idle : execution.IsIdleBetween number first last)
    (ordered : earlier < last) : earlier ≤ first := by
  by_contra beyond
  exact idle earlier (Nat.lt_of_not_le beyond) ordered own.1

/-- After a turn of the call, it is under way until it returns. -/
theorem IsOwnTurn.isUnderWay
    {first last : Nat}
    (own : execution.IsOwnTurn number index first)
    (busy : (execution.threadAt number first).isDone = false)
    (ordered : first < last)
    (unanswered : (execution.threadAt number last).answers.length = index) :
    execution.IsUnderWay number index last := by
  refine ⟨unanswered, ?_⟩
  induction last, Nat.succ_le_of_lt ordered using Nat.le_induction with
  | base =>
      have length_eq := (takes_turn (execution.systemAt first).shared busy).length_answers
      rw [← threadAt_succ_self own.1, unanswered, own.2] at length_eq
      exact (length_eq.resolve_left (by omega)).2
  | succ last later inductionHypothesis =>
      have earlier_eq := length_answers_eq_of_between own.2 unanswered
        (Nat.le_of_succ_le later) (Nat.le_succ last)
      have pending_some := inductionHypothesis later earlier_eq
      by_cases same : execution.schedule[last]? = some number
      · have still_busy : (execution.threadAt number last).isDone = false := by
          rw [Thread.isDone, Bool.and_eq_false_iff]
          exact Or.inl (by rw [Option.isNone_eq_false_iff]; exact pending_some)
        have length_eq := (takes_turn (execution.systemAt last).shared still_busy).length_answers
        rw [← threadAt_succ_self same, unanswered, earlier_eq] at length_eq
        exact (length_eq.resolve_left (by omega)).2
      · rw [threadAt_succ_of_ne same]
        exact pending_some

end Execution
end Cell
end ObjectStatus
