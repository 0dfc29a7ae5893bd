import Mathlib.Data.List.Forall2
import ObjectStatus.Proofs.Cell.Linearization

/-!
# Calls made one after another

A caller that has the cell to itself makes its calls one after another. Threads that share a cell
are explained by such a sequence as well: the operations of a schedule, in the order in which they
take effect. This module says what is common to the two, so that what is known of operations made
one after another is known of both: which calls they are, and whose answers.
-/

namespace ObjectStatus
namespace Cell

/-- The word after a sequence of calls. -/
def wordAfter (calls : List Call) (word : Word) : Word :=
  calls.foldl (fun word call => (call.effect word).word) word

/-- The operations of a caller that has the cell to itself and has made `index` calls before. -/
def operationsAlone (index : Nat) : List Call → Word → List Operation
  | [], _ => []
  | call :: rest, word =>
      ⟨0, index, call, (call.effect word).answer⟩ ::
        operationsAlone (index + 1) rest (call.effect word).word

@[simp] theorem wordAfter_nil (word : Word) : wordAfter [] word = word := rfl

@[simp] theorem wordAfter_cons
    (call : Call)
    (rest : List Call)
    (word : Word) :
    wordAfter (call :: rest) word = wordAfter rest (call.effect word).word := rfl

/-- A sequence of calls may be cut in two. -/
theorem wordAfter_append
    (first second : List Call)
    (word : Word) :
    wordAfter (first ++ second) word = wordAfter second (wordAfter first word) :=
  List.foldl_append

/-- Operations of a single caller replay by themselves. -/
theorem replays_operationsAlone
    (index : Nat)
    (calls : List Call)
    (word : Word) :
    Replays word (operationsAlone index calls word) (wordAfter calls word) := by
  induction calls generalizing index word with
  | nil => exact .nil word
  | cons call rest inductionHypothesis =>
      exact .cons (call.specified_effect word)
        (inductionHypothesis (index + 1) (call.effect word).word)

@[simp] theorem map_call_operationsAlone
    (index : Nat)
    (calls : List Call)
    (word : Word) :
    (operationsAlone index calls word).map (·.call) = calls := by
  induction calls generalizing index word with
  | nil => rfl
  | cons call rest inductionHypothesis =>
      exact congrArg (List.cons call)
        (inductionHypothesis (index + 1) (call.effect word).word)

/-- What is true of every operation and its answer is true of the calls and the answers. -/
theorem forall₂_of_operations
    {Fits : Call → Answer → Prop}
    {operations : List Operation}
    (fits : ∀ operation ∈ operations, Fits operation.call operation.answer) :
    List.Forall₂ Fits (operations.map (·.call)) (operations.map (·.answer)) := by
  rw [List.forall₂_map_left_iff, List.forall₂_map_right_iff, List.forall₂_same]
  exact fits

namespace System

/-! ## The calls of a schedule -/

/-- The calls that have not taken effect yet, thread by thread. -/
def remaining (system : System) : List Call :=
  system.threads.flatMap Thread.remaining

theorem remaining_start
    (word : Word)
    (programs : List (List Call)) : (start word programs).remaining = programs.flatten := by
  have remaining_new : (fun calls => (Thread.new calls).remaining) = id := rfl
  simp only [remaining, start, List.flatMap_map, remaining_new, List.flatMap_id]

theorem remaining_of_isDone
    {system : System}
    (done : system.isDone = true) : system.remaining = [] := by
  rw [remaining, List.flatMap_eq_nil_iff]
  intro thread member
  rw [Thread.eq_of_isDone (List.all_eq_true.1 done thread member)]
  rfl

/-- The call that takes effect in a step is one of those that had not. -/
theorem perm_remaining_step
    {system : System}
    (sound : system.IsSound)
    (number : Nat) :
    ((system.takesEffect? number).toList.map (·.call) ++ (system.step number).remaining).Perm
      system.remaining := by
  have spec := turnSpec system.shared (sound number)
  unfold takesEffect?
  cases present : system.threads[number]? with
  | none =>
      have thread_eq : system.thread number = .new [] := by
        simp [System.thread, List.getD_eq_getElem?_getD, present]
      have step_eq : system.step number = system := by simp [System.step, present]
      rw [thread_eq, step_eq]
      exact .refl _
  | some thread =>
      rw [thread_eq_of_present present] at spec ⊢
      obtain ⟨front, back, remaining_eq, stepped_eq⟩ :=
        exists_flatMap_step Thread.remaining present
      unfold remaining
      rw [remaining_eq, stepped_eq]
      cases effective : thread.takesEffect? system.shared.word with
      | none =>
          rw [(spec.rests effective).remaining_eq]
          exact .refl _
      | some call =>
          have taken := (spec.settles call effective).remaining_eq
          dsimp only at taken
          rw [taken, List.cons_append]
          change (call :: (front ++ _)).Perm _
          exact List.perm_middle.symm

/-- The calls that take effect during a schedule are those that had not before and have after. -/
theorem perm_remaining_run
    {system : System}
    (sound : system.IsSound)
    (schedule : List Nat) :
    ((system.linearization schedule).map (·.call) ++ (system.run schedule).remaining).Perm
      system.remaining := by
  induction schedule generalizing system with
  | nil => exact .refl _
  | cons number rest inductionHypothesis =>
      rw [linearization_cons, List.map_append, List.append_assoc, run_cons]
      exact ((inductionHypothesis (sound.step number)).append_left _).trans
        (perm_remaining_step sound number)

/-- Once all calls have returned, each of them has taken effect once. -/
theorem perm_map_call_linearization
    {word : Word}
    {programs : List (List Call)}
    {schedule : List Nat}
    (done : ((start word programs).run schedule).isDone = true) :
    (((start word programs).linearization schedule).map (·.call)).Perm programs.flatten := by
  have taken := perm_remaining_run (isSound_start word programs) schedule
  rwa [remaining_of_isDone done, List.append_nil, remaining_start] at taken

/-- The operations of a thread are its calls with their answers, as far as they have taken effect. -/
theorem calls_eq_of_advances
    (word : Word)
    (programs : List (List Call))
    (schedule : List Nat)
    (number : Nat) :
    programs.getD number [] =
        (Operation.ofThread number ((start word programs).linearization schedule)).map (·.call) ++
          (((start word programs).run schedule).thread number).remaining ∧
      (((start word programs).run schedule).thread number).settled =
        (Operation.ofThread number
          ((start word programs).linearization schedule)).map (·.answer) := by
  have advances := advances_run (isSound_start word programs) schedule number
  have remaining_eq := advances.remaining_eq
  have settled_eq := advances.settled_eq
  rw [thread_start] at remaining_eq settled_eq
  exact ⟨remaining_eq, settled_eq⟩

/-- Once all calls have returned, the operations of a thread are its calls with their answers. -/
theorem calls_eq_of_isDone
    {word : Word}
    {programs : List (List Call)}
    {schedule : List Nat}
    (done : ((start word programs).run schedule).isDone = true)
    (number : Nat) :
    programs.getD number [] =
        (Operation.ofThread number ((start word programs).linearization schedule)).map (·.call) ∧
      (((start word programs).run schedule).thread number).answers =
        (Operation.ofThread number
          ((start word programs).linearization schedule)).map (·.answer) := by
  obtain ⟨calls_eq, answers_eq⟩ := calls_eq_of_advances word programs schedule number
  rw [thread_eq_of_isDone done] at calls_eq answers_eq
  simp only [Thread.remaining, Thread.settled, List.append_nil] at calls_eq answers_eq
  exact ⟨calls_eq, answers_eq⟩

/-- No schedule adds or removes a thread. -/
theorem length_threads_run
    (system : System)
    (schedule : List Nat) : (system.run schedule).threads.length = system.threads.length := by
  induction schedule generalizing system with
  | nil => rfl
  | cons number rest inductionHypothesis =>
      rw [run_cons, inductionHypothesis, length_threads_step]

/-- Once all calls have returned, what is true of every operation and its answer is true of every
thread, its calls and its answers. -/
theorem forall₂_answers_of_linearization
    {word : Word}
    {programs : List (List Call)}
    {schedule : List Nat}
    (done : ((start word programs).run schedule).isDone = true)
    {Fits : Call → Answer → Prop}
    (fits : ∀ operation ∈ (start word programs).linearization schedule,
      Fits operation.call operation.answer) :
    List.Forall₂ (List.Forall₂ Fits) programs
      (((start word programs).run schedule).threads.map (·.answers)) := by
  have thread_fits (number : Nat) :
      List.Forall₂ Fits (programs.getD number [])
        (((start word programs).run schedule).thread number).answers := by
    obtain ⟨calls_eq, answers_eq⟩ := calls_eq_of_isDone done number
    rw [calls_eq, answers_eq]
    exact forall₂_of_operations fun operation member => fits operation (List.mem_filter.1 member).1
  have same_length :
      programs.length = ((start word programs).run schedule).threads.length := by
    rw [length_threads_run, start, List.length_map]
  refine List.forall₂_iff_get.2 ⟨by rw [same_length, List.length_map], ?_⟩
  intro number inPrograms inAnswers
  have inThreads : number < ((start word programs).run schedule).threads.length :=
    same_length ▸ inPrograms
  simpa [thread, List.getD_eq_getElem?_getD, inPrograms, inThreads] using thread_fits number

/-- A thread with a call that takes effect has got the answers of all calls before it. -/
theorem settled_of_takesEffect?
    {thread : Thread}
    {word : Word}
    {call : Call}
    (effective : thread.takesEffect? word = some call) : thread.settled = thread.answers := by
  obtain ⟨pending, calls, answers⟩ := thread
  rcases pending with _ | ⟨⟨target, seen⟩ | ⟨change, answer⟩⟩
  · rfl
  · rfl
  · contradiction

/-- The call of this program that a thread is making or will make next: the one after those that it
has got an answer for. -/
def current?
    (programs : List (List Call))
    (system : System)
    (number : Nat) : Option Call :=
  (programs.getD number [])[(system.thread number).answers.length]?

/-- The call that takes effect in a step is the one that its thread is making. -/
theorem current?_of_takesEffect?
    {word : Word}
    {programs : List (List Call)}
    {schedule : List Nat}
    {number : Nat}
    {operation : Operation}
    (effective : ((start word programs).run schedule).takesEffect? number = some operation) :
    current? programs ((start word programs).run schedule) number = some operation.call := by
  have sound := (isSound_start word programs).run schedule
  obtain ⟨calls_eq, answers_eq⟩ := calls_eq_of_advances word programs schedule number
  unfold takesEffect? at effective
  obtain ⟨call, call_effective, rfl⟩ := Option.map_eq_some_iff.1 effective
  have remaining_eq := ((turnSpec _ (sound number)).settles call call_effective).remaining_eq
  dsimp only at remaining_eq
  rw [settled_of_takesEffect? call_effective] at answers_eq
  rw [current?, answers_eq, calls_eq, remaining_eq, List.length_map,
    ← List.length_map (f := (·.call)), List.getElem?_append_right (Nat.le_refl _), Nat.sub_self]
  rfl

end System
end Cell
end ObjectStatus
