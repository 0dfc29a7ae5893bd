import ObjectStatus.Proofs.Cell.Schedule
import ObjectStatus.Proofs.Runs

/-!
# Linearization of shared cells

Threads that share a cell get the answers, and leave the word, that they would get and leave if
their calls were made one after another: in the order in which the calls take effect. A promotion
takes effect where its last look at the word refuses it or finds nothing to do, or where its
exchange succeeds; every other call takes effect in its first turn. Each call takes effect between
its first and its last access to the word, so the order never puts a call before one that was over
when it began.
-/

namespace ObjectStatus
namespace Cell

/-- A call that a thread made, with its answer. -/
structure Operation where
  /-- The number of the thread. -/
  thread : Nat
  /-- How many calls the thread made before this one. -/
  index : Nat
  /-- What the thread asked for. -/
  call : Call
  /-- What the thread got. -/
  answer : Answer
  deriving DecidableEq

/-- The operations of one thread, in the order of the list. -/
def Operation.ofThread (number : Nat) (order : List Operation) : List Operation :=
  order.filter fun operation => operation.thread = number

/-- Made one after another from the word `before`, the operations get their answers and leave the
word `after`. -/
inductive Replays : (before : Word) → List Operation → (after : Word) → Prop
  | nil (word : Word) : Replays word [] word
  | cons
      {before middle after : Word}
      {operation : Operation}
      {rest : List Operation} :
      Specified operation.call before operation.answer middle →
      Replays middle rest after →
      Replays before (operation :: rest) after

namespace System

/-- The operation that takes effect when the thread with this number has its turn, if one does. -/
def takesEffect? (system : System) (number : Nat) : Option Operation :=
  ((system.thread number).takesEffect? system.shared.word).map fun call =>
    { thread := number
      index := (system.thread number).settled.length
      call := call
      answer := (call.effect system.shared.word).answer }

/-- The operations of a schedule in the order in which they take effect. -/
def linearization : System → List Nat → List Operation
  | _, [] => []
  | system, number :: rest =>
      (system.takesEffect? number).toList ++ (system.step number).linearization rest

@[simp] theorem linearization_nil (system : System) : system.linearization [] = [] := rfl

@[simp] theorem linearization_cons
    (system : System)
    (number : Nat)
    (rest : List Nat) :
    system.linearization (number :: rest) =
      (system.takesEffect? number).toList ++ (system.step number).linearization rest := rfl

theorem isNotedAlong_linearization :
    IsNotedAlong step (fun system number => (system.takesEffect? number).toList) linearization where
  nil _ := rfl
  cons _ _ _ := rfl

theorem linearization_append
    (system : System)
    (first second : List Nat) :
    system.linearization (first ++ second) =
      system.linearization first ++ (system.run first).linearization second :=
  isNotedAlong_linearization.append system first second

/-! ## The order explains the word and the answers -/

theorem replays_takesEffect?
    {system : System}
    (sound : system.IsSound)
    (number : Nat)
    {rest : List Operation}
    {after : Word}
    (replays : Replays (system.step number).shared.word rest after) :
    Replays system.shared.word ((system.takesEffect? number).toList ++ rest) after := by
  have spec := turnSpec system.shared (sound number)
  rw [shared_step] at replays
  unfold takesEffect?
  cases effective : (system.thread number).takesEffect? system.shared.word with
  | none =>
      have word_eq := (spec.rests effective).word_eq
      dsimp only at word_eq
      rw [word_eq] at replays
      exact replays
  | some call =>
      have word_eq := (spec.settles call effective).word_eq
      dsimp only at word_eq
      rw [word_eq] at replays
      exact .cons (call.specified_effect system.shared.word) replays

/-- Made in the order in which they take effect, the operations of a schedule leave the word that
the schedule leaves. -/
theorem replays_linearization
    {system : System}
    (sound : system.IsSound)
    (schedule : List Nat) :
    Replays system.shared.word (system.linearization schedule)
      (system.run schedule).shared.word := by
  induction schedule generalizing system with
  | nil => exact .nil system.shared.word
  | cons number rest inductionHypothesis =>
      exact replays_takesEffect? sound number (inductionHypothesis (sound.step number))

/-! ## The order has the operations of each thread -/

/-- Between two moments a thread has made these operations, and no others. -/
structure Advances
    (before : Thread)
    (taken : List Operation)
    (after : Thread) : Prop where
  /-- They are the next calls of the thread. -/
  remaining_eq : before.remaining = taken.map (·.call) ++ after.remaining
  /-- They got their answers. -/
  settled_eq : after.settled = before.settled ++ taken.map (·.answer)
  /-- They are numbered on from the calls before them. -/
  indices_eq : taken.map (·.index) = List.range' before.settled.length taken.length

theorem Advances.nil
    {before after : Thread}
    (remaining_eq : after.remaining = before.remaining)
    (settled_eq : after.settled = before.settled) : Advances before [] after where
  remaining_eq := by simp [remaining_eq]
  settled_eq := by simp [settled_eq]
  indices_eq := rfl

theorem Advances.trans
    {before middle after : Thread}
    {first second : List Operation}
    (firstAdvances : Advances before first middle)
    (secondAdvances : Advances middle second after) :
    Advances before (first ++ second) after where
  remaining_eq := by
    rw [firstAdvances.remaining_eq, secondAdvances.remaining_eq, List.map_append,
      List.append_assoc]
  settled_eq := by
    rw [secondAdvances.settled_eq, firstAdvances.settled_eq, List.map_append, List.append_assoc]
  indices_eq := by
    have settled_length :
        middle.settled.length = before.settled.length + first.length := by
      simp [firstAdvances.settled_eq]
    rw [List.map_append, firstAdvances.indices_eq, secondAdvances.indices_eq, settled_length,
      List.range'_append_1, List.length_append]

/-- A turn advances every thread by the operation that takes effect in it, if that is its own. -/
theorem advances_step
    {system : System}
    (sound : system.IsSound)
    (number other : Nat) :
    Advances (system.thread other)
      (Operation.ofThread other (system.takesEffect? number).toList)
      ((system.step number).thread other) := by
  by_cases same : other = number
  · subst same
    have spec := turnSpec system.shared (sound other)
    rw [thread_step_self]
    unfold takesEffect?
    cases effective : (system.thread other).takesEffect? system.shared.word with
    | none =>
        have rests := spec.rests effective
        exact .nil rests.remaining_eq rests.settled_eq
    | some call =>
        have settles := spec.settles call effective
        exact
          { remaining_eq := by simpa [Operation.ofThread] using settles.remaining_eq
            settled_eq := by simpa [Operation.ofThread] using settles.settled_eq
            indices_eq := by simp [Operation.ofThread] }
  · have none_taken :
        Operation.ofThread other (system.takesEffect? number).toList = [] := by
      unfold takesEffect?
      cases (system.thread number).takesEffect? system.shared.word with
      | none => rfl
      | some call => simp [Operation.ofThread, Ne.symm same]
    rw [none_taken, thread_step_of_ne same]
    exact .nil rfl rfl

/-- A schedule advances every thread by its own operations. -/
theorem advances_run
    {system : System}
    (sound : system.IsSound)
    (schedule : List Nat)
    (number : Nat) :
    Advances (system.thread number)
      (Operation.ofThread number (system.linearization schedule))
      ((system.run schedule).thread number) := by
  induction schedule generalizing system with
  | nil => exact .nil rfl rfl
  | cons turn rest inductionHypothesis =>
      rw [linearization_cons, Operation.ofThread, List.filter_append, run_cons]
      exact (advances_step sound turn number).trans (inductionHypothesis (sound.step turn))

/-! ## The order keeps real time -/

/-- What takes effect during a schedule is numbered after what took effect before it, and before
what takes effect after it. -/
theorem index_of_mem_linearization
    {system : System}
    (sound : system.IsSound)
    {schedule : List Nat}
    {operation : Operation}
    (member : operation ∈ system.linearization schedule) :
    (system.thread operation.thread).settled.length ≤ operation.index ∧
      operation.index < ((system.run schedule).thread operation.thread).settled.length := by
  have advances := advances_run sound schedule operation.thread
  have own : operation ∈
      Operation.ofThread operation.thread (system.linearization schedule) := by
    simp [Operation.ofThread, member]
  have index_mem := List.mem_map_of_mem (f := (·.index)) own
  rw [advances.indices_eq, List.mem_range'_1] at index_mem
  have settled_length := congrArg List.length advances.settled_eq
  rw [List.length_append, List.length_map] at settled_length
  omega

/-- At some moment of a schedule the first operation has made its last access to the word and the
second has not made its first. -/
def Precedes
    (system : System)
    (schedule : List Nat)
    (first second : Operation) : Prop :=
  ∃ before, before <+: schedule ∧
    first.index < ((system.run before).thread first.thread).settled.length ∧
    ((system.run before).thread second.thread).begun ≤ second.index

/-- An operation that has got its answer before another begins precedes it. -/
theorem precedes_of_answered
    {system : System}
    {schedule before : List Nat}
    {first second : Operation}
    (isPrefix : before <+: schedule)
    (answered : first.index < ((system.run before).thread first.thread).answers.length)
    (notBegun : ((system.run before).thread second.thread).begun ≤ second.index) :
    system.Precedes schedule first second := by
  have answered_settled := ((system.run before).thread first.thread).length_answers_le_settled
  exact ⟨before, isPrefix, Nat.lt_of_lt_of_le answered answered_settled, notBegun⟩

/-- An operation stands before every operation that began after it was over. -/
theorem sublist_linearization_of_precedes
    {system : System}
    (sound : system.IsSound)
    {schedule : List Nat}
    {first second : Operation}
    (first_mem : first ∈ system.linearization schedule)
    (second_mem : second ∈ system.linearization schedule)
    (precedes : system.Precedes schedule first second) :
    [first, second].Sublist (system.linearization schedule) := by
  obtain ⟨before, ⟨after, rfl⟩, finished, notBegun⟩ := precedes
  rw [linearization_append] at first_mem second_mem ⊢
  have first_before : first ∈ system.linearization before := by
    refine (List.mem_append.1 first_mem).resolve_right fun late => ?_
    have index_late := (index_of_mem_linearization (sound.run before) late).1
    omega
  have second_after : second ∈ (system.run before).linearization after := by
    refine (List.mem_append.1 second_mem).resolve_left fun early => ?_
    have index_early := (index_of_mem_linearization sound early).2
    have settled_begun := ((system.run before).thread second.thread).length_settled_le_begun
    omega
  exact (List.singleton_sublist.2 first_before).append (List.singleton_sublist.2 second_after)

/-- A total order of the calls that threads make on a cell, which explains the outcome of a
schedule. -/
structure IsLinearization
    (word : Word)
    (programs : List (List Call))
    (schedule : List Nat)
    (order : List Operation) : Prop where
  /-- Each thread stands in the order with its calls, each of them once, as it makes them. -/
  calls_eq : ∀ number,
    (Operation.ofThread number order).map (·.call) = programs.getD number []
  /-- They are numbered from the first to the last. -/
  indices_eq : ∀ number,
    (Operation.ofThread number order).map (·.index) =
      List.range (programs.getD number []).length
  /-- Their answers are those that the thread has got from the schedule. -/
  answers_eq : ∀ number,
    (Operation.ofThread number order).map (·.answer) =
      (((start word programs).run schedule).thread number).answers
  /-- An operation that was over when another began stands before it. -/
  keepsRealTime : ∀ first ∈ order, ∀ second ∈ order,
    (start word programs).Precedes schedule first second → [first, second].Sublist order
  /-- In particular, an operation that had been answered at some moment stands before every operation
  that had not been begun by then. -/
  keepsAnswered : ∀ first ∈ order, ∀ second ∈ order, ∀ before, before <+: schedule →
    first.index < (((start word programs).run before).thread first.thread).answers.length →
      (((start word programs).run before).thread second.thread).begun ≤ second.index →
        [first, second].Sublist order
  /-- Made one after another from the same word, the operations get the same answers and leave
  the same word. -/
  replays : Replays word order ((start word programs).run schedule).shared.word

/-- A shared cell is linearizable: whatever the word, the threads, their calls and the schedule,
once all calls have returned there is an order of the calls that explains the outcome. -/
theorem exists_linearization
    (word : Word)
    (programs : List (List Call))
    (schedule : List Nat)
    (done : ((start word programs).run schedule).isDone = true) :
    ∃ order, IsLinearization word programs schedule order := by
  have sound := isSound_start word programs
  have remaining_start (number : Nat) :
      ((start word programs).thread number).remaining = programs.getD number [] := by
    rw [thread_start]
    rfl
  have settled_start (number : Nat) : ((start word programs).thread number).settled = [] := by
    rw [thread_start]
    rfl
  have calls_eq (number : Nat) :
      (Operation.ofThread number ((start word programs).linearization schedule)).map (·.call) =
        programs.getD number [] := by
    have advances := advances_run sound schedule number
    have nothing_left :
        (((start word programs).run schedule).thread number).remaining = [] := by
      rw [thread_eq_of_isDone done]
      rfl
    rw [← remaining_start, advances.remaining_eq, nothing_left, List.append_nil]
  refine ⟨(start word programs).linearization schedule, ?_⟩
  exact
    { calls_eq := calls_eq
      indices_eq := by
        intro number
        rw [(advances_run sound schedule number).indices_eq, settled_start, ← calls_eq,
          List.length_map, List.range_eq_range']
        rfl
      answers_eq := by
        intro number
        have settled_eq := (advances_run sound schedule number).settled_eq
        have all_returned :
            (((start word programs).run schedule).thread number).settled =
              (((start word programs).run schedule).thread number).answers := by
          rw [thread_eq_of_isDone done]
          rfl
        rw [← all_returned, settled_eq, settled_start, List.nil_append]
      keepsRealTime := by
        intro first first_mem second second_mem precedes
        exact sublist_linearization_of_precedes sound first_mem second_mem precedes
      keepsAnswered := by
        intro first first_mem second second_mem before isPrefix answered notBegun
        exact sublist_linearization_of_precedes sound first_mem second_mem
          (precedes_of_answered isPrefix answered notBegun)
      replays := replays_linearization sound schedule }

/-- Two promotions lose exchanges to each other and to a thread that restores the word. One of them
succeeds in the end, and the other finds the object expired. -/
theorem exists_linearization_of_race :
    ((start Code.staged.word
        [[.promote .ready, .expire], [.promote .active], [.insert .lengthKnown, .stage]]).run
      [0, 1, 2, 2, 0, 0, 0, 1, 2, 2, 1, 0, 0, 1, 1]).isDone = true ∧
    ∃ order, IsLinearization Code.staged.word
      [[.promote .ready, .expire], [.promote .active], [.insert .lengthKnown, .stage]]
      [0, 1, 2, 2, 0, 0, 0, 1, 2, 2, 1, 0, 0, 1, 1] order :=
  ⟨by decide, exists_linearization _ _ _ (by decide)⟩

end System
end Cell
end ObjectStatus
