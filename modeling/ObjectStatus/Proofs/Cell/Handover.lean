import ObjectStatus.Proofs.Cell.Schedule
import ObjectStatus.Proofs.Runs
import ObjectStatus.Proofs.Transition.Trail

/-!
# Changes handed to the log

A thread hands a change to the log some turns after it has made it, so the log may get the changes
of a shared cell in another order than the word went through them. It still gets each of them, and
gets nothing else: at every moment, what was recorded and what the threads still owe are together
the changes of the word.
-/

namespace ObjectStatus
namespace Cell
namespace System

/-- The changes of the word during a schedule, seen by comparing the word before and after each
turn. -/
def changes : System → List Nat → List Transition
  | _, [] => []
  | system, number :: rest =>
      (Transition.ofWords? system.shared.word (system.step number).shared.word).toList ++
        (system.step number).changes rest

/-- What the threads have still to hand to the log. -/
def owed (system : System) : List Transition :=
  system.threads.flatMap Thread.owed

@[simp] theorem changes_nil (system : System) : system.changes [] = [] := rfl

@[simp] theorem changes_cons
    (system : System)
    (number : Nat)
    (rest : List Nat) :
    system.changes (number :: rest) =
      (Transition.ofWords? system.shared.word (system.step number).shared.word).toList ++
        (system.step number).changes rest := rfl

/-- The changes of a schedule lead from the word before it to the word after it. -/
theorem isTrail_changes
    (system : System)
    (schedule : List Nat) :
    Transition.IsTrail system.shared.word (system.changes schedule)
      (system.run schedule).shared.word := by
  induction schedule generalizing system with
  | nil => rfl
  | cons number rest inductionHypothesis =>
      rw [changes_cons, Transition.isTrail_append]
      exact ⟨(system.step number).shared.word, Transition.isTrail_ofWords? _ _,
        inductionHypothesis (system.step number)⟩

theorem isNotedAlong_changes :
    IsNotedAlong step
      (fun system number =>
        (Transition.ofWords? system.shared.word (system.step number).shared.word).toList)
      changes where
  nil _ := rfl
  cons _ _ _ := rfl

theorem owed_start
    (word : Word)
    (programs : List (List Call)) : (start word programs).owed = [] := by
  simp [owed, start, Thread.new, Thread.owed, List.flatMap_eq_nil_iff]

theorem owed_of_isDone
    {system : System}
    (done : system.isDone = true) : system.owed = [] := by
  rw [owed, List.flatMap_eq_nil_iff]
  intro thread member
  rw [Thread.eq_of_isDone (List.all_eq_true.1 done thread member)]
  rfl

/-- A turn changes what all threads owe by what its own thread owes. -/
theorem count_owed_step
    {system : System}
    {number : Nat}
    {thread : Thread}
    (present : system.threads[number]? = some thread)
    (transition : Transition) :
    (system.step number).owed.count transition + thread.owed.count transition =
      system.owed.count transition +
        (turn system.shared thread).2.owed.count transition := by
  obtain ⟨front, back, owed_eq, owed_stepped_eq⟩ := exists_flatMap_step Thread.owed present
  unfold owed
  rw [owed_eq, owed_stepped_eq]
  simp only [List.count_append]
  omega

/-- In a turn, the log and the threads that owe to it gain exactly the change of the word. -/
theorem account_step
    {system : System}
    (sound : system.IsSound)
    (number : Nat) :
    ((system.step number).shared.recorded ++ (system.step number).owed).Perm
      (system.shared.recorded ++ system.owed ++
        (Transition.ofWords? system.shared.word (system.step number).shared.word).toList) := by
  have shared_eq := system.shared_step number
  have account := (turnSpec system.shared (sound number)).account
  unfold KeepsAccount at account
  rw [← shared_eq] at account
  cases present : system.threads[number]? with
  | none => simp [step, present]
  | some thread =>
      rw [thread_eq_of_present present] at account
      rw [List.perm_iff_count]
      intro transition
      have threads_account := count_owed_step present transition
      have turn_account := congrArg (List.count transition) account
      simp only [List.count_append] at turn_account ⊢
      omega

/-- During a schedule, the log and the threads that owe to it gain exactly the changes of the
word. -/
theorem account_run
    {system : System}
    (sound : system.IsSound)
    (schedule : List Nat) :
    ((system.run schedule).shared.recorded ++ (system.run schedule).owed).Perm
      (system.shared.recorded ++ system.owed ++ system.changes schedule) := by
  induction schedule generalizing system with
  | nil => simp
  | cons number rest inductionHypothesis =>
      rw [run_cons, changes_cons, ← List.append_assoc]
      exact (inductionHypothesis (sound.step number)).trans
        ((account_step sound number).append_right _)

/-- The log got what the word of a shared cell went through. -/
structure IsHandedOver
    (word : Word)
    (programs : List (List Call))
    (schedule : List Nat) : Prop where
  /-- The log got every change of the word as often as it happened, and nothing else. -/
  recorded_perm :
    ((start word programs).run schedule).shared.recorded.Perm
      ((start word programs).changes schedule)
  /-- It got nothing that changes nothing. -/
  effective : ∀ transition ∈ ((start word programs).run schedule).shared.recorded,
    transition.source ≠ transition.target
  /-- In some order, what it got leads from the first word to the last. -/
  exists_trail : ∃ trail : List Transition,
    trail.Perm ((start word programs).run schedule).shared.recorded ∧
      Transition.IsTrail word trail ((start word programs).run schedule).shared.word

/-- Once all calls on a shared cell have returned, the log has got the changes of the word, in
whatever order. -/
theorem isHandedOver
    (word : Word)
    (programs : List (List Call))
    (schedule : List Nat)
    (done : ((start word programs).run schedule).isDone = true) :
    IsHandedOver word programs schedule := by
  have recorded_perm :
      ((start word programs).run schedule).shared.recorded.Perm
        ((start word programs).changes schedule) := by
    have account := account_run (isSound_start word programs) schedule
    rw [owed_of_isDone done, owed_start, List.append_nil, List.append_nil] at account
    exact account
  exact
    { recorded_perm := recorded_perm
      effective := by
        intro transition member
        exact isNotedAlong_changes.of_mem (fun _ _ _ => Transition.isEffective_of_mem_ofWords?)
          (recorded_perm.mem_iff.1 member)
      exists_trail :=
        ⟨(start word programs).changes schedule, recorded_perm.symm,
          isTrail_changes (start word programs) schedule⟩ }

/-- Three threads change a word, and the one that changes it first hands its change over last. -/
theorem isHandedOver_of_late_record :
    ((start Code.staged.word
        [[.promote .ready], [.expire, .stage], [.transition .staged .active]]).run
      [0, 0, 1, 1, 1, 2, 2, 1, 0]).isDone = true ∧
    IsHandedOver Code.staged.word
      [[.promote .ready], [.expire, .stage], [.transition .staged .active]]
      [0, 0, 1, 1, 1, 2, 2, 1, 0] :=
  ⟨by decide, isHandedOver _ _ _ (by decide)⟩

end System
end Cell
end ObjectStatus
