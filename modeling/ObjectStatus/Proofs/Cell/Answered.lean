import Mathlib.Algebra.Order.BigOperators.Group.List
import Mathlib.Algebra.Order.Group.Nat
import ObjectStatus.Proofs.Cell.Sequence

/-!
# Calls and the answers to them

Whoever watches threads at a shared cell sees the calls that they make and the answers that they
get, thread by thread, and does not see the order in which the calls take effect. This module
compares the two. The answered calls of a thread are the first of its operations, so that what is
counted among the operations of a schedule bounds what can be counted among the answered calls, and
is the same once all calls have returned.
-/

namespace ObjectStatus
namespace Cell

/-- The calls of these programs that have got an answer, each with its answer. -/
def answered
    (programs : List (List Call))
    (answers : List (List Answer)) : List (Call × Answer) :=
  (List.zipWith List.zip programs answers).flatten

theorem answered_operations (operations : List Operation) :
    answered [operations.map (·.call)] [operations.map (·.answer)] =
      operations.map fun operation => (operation.call, operation.answer) := by
  simp [answered, List.zip_map']

/-- Operations of the first so many threads, thread by thread, are all operations of these threads. -/
theorem perm_flatMap_ofThread
    (operations : List Operation)
    (count : Nat) :
    ((List.range count).flatMap fun number => Operation.ofThread number operations).Perm
      (operations.filter fun operation => operation.thread < count) := by
  induction count with
  | zero => simp
  | succ count inductionHypothesis =>
      have parted := List.filter_append_perm (fun operation : Operation => operation.thread < count)
        (operations.filter fun operation => operation.thread < count + 1)
      have earlier :
          (operations.filter fun operation => operation.thread < count + 1).filter
              (fun operation => operation.thread < count) =
            operations.filter fun operation => operation.thread < count := by
        rw [List.filter_filter]
        refine List.filter_congr fun operation _ => ?_
        rw [← Bool.decide_and, decide_eq_decide]
        omega
      have newest :
          (operations.filter fun operation => operation.thread < count + 1).filter
              (fun operation => !decide (operation.thread < count)) =
            Operation.ofThread count operations := by
        rw [Operation.ofThread, List.filter_filter]
        refine List.filter_congr fun operation _ => ?_
        rw [← decide_not, ← Bool.decide_and, decide_eq_decide]
        omega
      rw [earlier, newest] at parted
      rw [List.range_succ, List.flatMap_append, List.flatMap_singleton]
      exact (inductionHypothesis.append_right _).trans parted

namespace System

/-- Operations belong to threads of the system. -/
theorem thread_lt_of_mem_linearization
    {system : System}
    {schedule : List Nat}
    {operation : Operation}
    (member : operation ∈ system.linearization schedule) :
    operation.thread < system.threads.length := by
  induction schedule generalizing system with
  | nil => contradiction
  | cons number rest inductionHypothesis =>
      rw [linearization_cons, List.mem_append, Option.mem_toList] at member
      rcases member with now | later
      · obtain ⟨call, effective, rfl⟩ := Option.map_eq_some_iff.1 now
        by_contra outside
        have absent : system.threads[number]? = none :=
          List.getElem?_eq_none (Nat.le_of_not_lt outside)
        simp [thread, List.getD_eq_getElem?_getD, absent, Thread.new, Thread.takesEffect?]
          at effective
      · rw [← system.length_threads_step number]
        exact inductionHypothesis later

/-- The calls of a thread that have got an answer are the first of its operations. -/
theorem prefix_zip_answers
    (word : Word)
    (programs : List (List Call))
    (schedule : List Nat)
    (number : Nat) :
    (programs.getD number []).zip (((start word programs).run schedule).thread number).answers <+:
      (Operation.ofThread number ((start word programs).linearization schedule)).map
        fun operation => (operation.call, operation.answer) := by
  obtain ⟨calls_eq, settled_eq⟩ := calls_eq_of_advances word programs schedule number
  obtain ⟨untold, told_eq⟩ :=
    (((start word programs).run schedule).thread number).answers_prefix_settled
  rw [settled_eq] at told_eq
  obtain ⟨first, rest, own_eq, answers_eq, -⟩ := List.map_eq_append_iff.1 told_eq.symm
  have same_length : (first.map (·.call)).length = (first.map (·.answer)).length := by
    rw [List.length_map, List.length_map]
  rw [calls_eq, own_eq, ← answers_eq, List.map_append, List.append_assoc,
    ← List.append_nil (first.map (·.answer)), List.zip_append same_length, List.zip_nil_right,
    List.append_nil, List.zip_map', List.map_append]
  exact List.prefix_append _ _

/-- Once all calls have returned, they are all of its operations. -/
theorem zip_answers_of_isDone
    {word : Word}
    {programs : List (List Call)}
    {schedule : List Nat}
    (done : ((start word programs).run schedule).isDone = true)
    (number : Nat) :
    (programs.getD number []).zip (((start word programs).run schedule).thread number).answers =
      (Operation.ofThread number ((start word programs).linearization schedule)).map
        fun operation => (operation.call, operation.answer) := by
  obtain ⟨calls_eq, answers_eq⟩ := calls_eq_of_isDone done number
  rw [calls_eq, answers_eq, List.zip_map']

/-- What the threads of a schedule have been told, thread by thread. -/
theorem answered_run
    (word : Word)
    (programs : List (List Call))
    (schedule : List Nat) :
    answered programs (((start word programs).run schedule).threads.map (·.answers)) =
      (List.range programs.length).flatMap fun number =>
        (programs.getD number []).zip
          (((start word programs).run schedule).thread number).answers := by
  have same_length :
      ((start word programs).run schedule).threads.length = programs.length := by
    rw [length_threads_run, start, List.length_map]
  unfold answered
  rw [List.flatMap_def]
  congr 1
  refine List.ext_getElem (by simp [same_length]) ?_
  intro number inZip inRange
  have inPrograms : number < programs.length := by simpa using inRange
  have inThreads : number < ((start word programs).run schedule).threads.length :=
    same_length ▸ inPrograms
  simp [thread, List.getD_eq_getElem?_getD, inPrograms, inThreads]

/-- All operations of a schedule, thread by thread. -/
theorem perm_linearization
    (word : Word)
    (programs : List (List Call))
    (schedule : List Nat) :
    ((List.range programs.length).flatMap fun number =>
        Operation.ofThread number ((start word programs).linearization schedule)).Perm
      ((start word programs).linearization schedule) := by
  have parted := perm_flatMap_ofThread ((start word programs).linearization schedule)
    programs.length
  rwa [List.filter_eq_self.2] at parted
  intro operation member
  have inThreads := thread_lt_of_mem_linearization member
  rw [start, List.length_map] at inThreads
  exact decide_eq_true inThreads

/-- What holds of so many answered calls holds of as many operations at least. -/
theorem countP_answered_le
    (word : Word)
    (programs : List (List Call))
    (schedule : List Nat)
    (holds : Call × Answer → Bool) :
    (answered programs (((start word programs).run schedule).threads.map (·.answers))).countP
        holds ≤
      ((start word programs).linearization schedule).countP
        fun operation => holds (operation.call, operation.answer) := by
  rw [answered_run, List.countP_flatMap, ← (perm_linearization word programs schedule).countP_eq,
    List.countP_flatMap]
  refine List.sum_le_sum fun number _ => ?_
  have own_le := (prefix_zip_answers word programs schedule number).sublist.countP_le (p := holds)
  rwa [List.countP_map] at own_le

/-- Once all calls have returned, it holds of just as many. -/
theorem countP_answered_of_isDone
    {word : Word}
    {programs : List (List Call)}
    {schedule : List Nat}
    (done : ((start word programs).run schedule).isDone = true)
    (holds : Call × Answer → Bool) :
    (answered programs (((start word programs).run schedule).threads.map (·.answers))).countP
        holds =
      ((start word programs).linearization schedule).countP
        fun operation => holds (operation.call, operation.answer) := by
  rw [answered_run, List.countP_flatMap, ← (perm_linearization word programs schedule).countP_eq,
    List.countP_flatMap]
  refine congrArg List.sum (List.map_congr_left fun number _ => ?_)
  rw [Function.comp_apply, Function.comp_apply, zip_answers_of_isDone done, List.countP_map]
  rfl

end System
end Cell
end ObjectStatus
