import ObjectStatus.Proofs.Cell.Turn

/-!
# Schedules of threads that share a cell

The threads of a system are looked up by number, and a number without a thread counts as a thread
with nothing to do. A step is then a turn of the thread with its number and leaves the other
threads alone, so that a statement about a schedule is an induction over its turns.
-/

namespace ObjectStatus
namespace Cell
namespace System

/-- The thread with this number, or a thread with nothing to do. -/
def thread (system : System) (number : Nat) : Thread :=
  system.threads.getD number (.new [])

/-- Every thread is sound. -/
def IsSound (system : System) : Prop :=
  ∀ number, (system.thread number).IsSound

theorem thread_start
    (word : Word)
    (programs : List (List Call))
    (number : Nat) :
    (start word programs).thread number = .new (programs.getD number []) := by
  simp [thread, start, List.getD_eq_getElem?_getD, Option.getD_map]

/-- A step does to the word and the log what the turn of its thread does. -/
theorem shared_step (system : System) (number : Nat) :
    (system.step number).shared = (turn system.shared (system.thread number)).1 := by
  unfold step thread
  cases present : system.threads[number]? with
  | none => simp [present, turn, Thread.new]
  | some thread => simp [present]

theorem thread_step_self (system : System) (number : Nat) :
    (system.step number).thread number = (turn system.shared (system.thread number)).2 := by
  unfold step thread
  cases present : system.threads[number]? with
  | none => simp [present, turn, Thread.new]
  | some thread =>
      obtain ⟨inRange, rfl⟩ := List.getElem?_eq_some_iff.1 present
      simp [inRange]

theorem thread_step_of_ne
    {number other : Nat}
    (different : other ≠ number)
    (system : System) :
    (system.step number).thread other = system.thread other := by
  unfold step thread
  cases system.threads[number]? with
  | none => rfl
  | some thread => simp [different.symm]

theorem thread_eq_of_present
    {system : System}
    {number : Nat}
    {thread : Thread}
    (present : system.threads[number]? = some thread) : system.thread number = thread := by
  simp [System.thread, List.getD_eq_getElem?_getD, present]

/-- What the threads have between them changes in a step by what the thread of the step has. -/
theorem exists_flatMap_step
    {α : Type}
    (parts : Thread → List α)
    {system : System}
    {number : Nat}
    {thread : Thread}
    (present : system.threads[number]? = some thread) :
    ∃ front back,
      system.threads.flatMap parts = front ++ (parts thread ++ back) ∧
        (system.step number).threads.flatMap parts =
          front ++ (parts (turn system.shared thread).2 ++ back) := by
  obtain ⟨inRange, rfl⟩ := List.getElem?_eq_some_iff.1 present
  have threads_eq :
      system.threads =
        system.threads.take number ++
          system.threads[number] :: system.threads.drop (number + 1) := by
    rw [List.getElem_cons_drop, List.take_append_drop]
  have stepped_eq :
      (system.step number).threads =
        system.threads.take number ++
          (turn system.shared system.threads[number]).2 ::
            system.threads.drop (number + 1) := by
    simp only [step, present]
    rw [List.set_eq_take_append_cons_drop, if_pos inRange]
  refine ⟨(system.threads.take number).flatMap parts,
    (system.threads.drop (number + 1)).flatMap parts, ?_, ?_⟩
  · have parts_eq := congrArg (List.flatMap parts) threads_eq
    rwa [List.flatMap_append, List.flatMap_cons] at parts_eq
  · rw [stepped_eq, List.flatMap_append, List.flatMap_cons]

theorem isSound_start
    (word : Word)
    (programs : List (List Call)) : (start word programs).IsSound := by
  intro number
  rw [thread_start]
  simp [Thread.IsSound, Thread.new]

/-- A step keeps all threads sound. -/
theorem IsSound.step
    {system : System}
    (sound : system.IsSound)
    (number : Nat) : (system.step number).IsSound := by
  intro other
  by_cases same : other = number
  · subst same
    rw [thread_step_self]
    exact (turnSpec system.shared (sound other)).sound
  · rw [thread_step_of_ne same]
    exact sound other

/-- A schedule keeps all threads sound. -/
theorem IsSound.run
    {system : System}
    (sound : system.IsSound)
    (schedule : List Nat) : (system.run schedule).IsSound := by
  induction schedule generalizing system with
  | nil => exact sound
  | cons number rest inductionHypothesis => exact inductionHypothesis (sound.step number)

/-- If every turn lowers what its thread still needs, and adds to no other thread, then a schedule
lowers the needs of a thread once for each of its turns, as long as there are any. -/
theorem needs_run_le
    {Keeps : System → Prop}
    {needs : Thread → Nat}
    (keeps_step : ∀ system, Keeps system → ∀ number, Keeps (system.step number))
    (needs_turn_lt : ∀ system, Keeps system → ∀ number,
      needs (turn system.shared (system.thread number)).2 ≤ needs (system.thread number) - 1)
    {system : System}
    (keeps : Keeps system)
    (schedule : List Nat)
    (number : Nat) :
    needs ((system.run schedule).thread number) ≤
      needs (system.thread number) - schedule.count number := by
  induction schedule generalizing system with
  | nil => exact Nat.le_refl _
  | cons first rest inductionHypothesis =>
      have rest_le := inductionHypothesis (keeps_step system keeps first)
      rw [run_cons]
      by_cases same : number = first
      · subst same
        have turn_le := needs_turn_lt system keeps number
        rw [← thread_step_self] at turn_le
        rw [List.count_cons_self]
        omega
      · rw [thread_step_of_ne same] at rest_le
        rwa [List.count_cons_of_ne (Ne.symm same)]

/-- When every thread is done, each of them has nothing left and owes nothing. -/
theorem thread_eq_of_isDone
    {system : System}
    (done : system.isDone = true)
    (number : Nat) :
    system.thread number = ⟨none, [], (system.thread number).answers⟩ := by
  apply Thread.eq_of_isDone
  unfold thread
  rw [List.getD_eq_getElem?_getD]
  cases present : system.threads[number]? with
  | none => rfl
  | some thread => exact List.all_eq_true.1 done thread (List.mem_of_getElem? present)

theorem isDone_of_thread
    {system : System}
    (done : ∀ number, (system.thread number).isDone = true) : system.isDone = true := by
  refine List.all_eq_true.2 fun thread member => ?_
  obtain ⟨number, present⟩ := List.mem_iff_getElem?.1 member
  rw [← thread_eq_of_present present]
  exact done number

end System
end Cell
end ObjectStatus
