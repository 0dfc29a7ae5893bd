import ObjectStatus.Routine.Interleaving

/-!
# What a routine keeps and what it reaches

Between two accesses of a routine the other threads may leave any state. So what the routine does is
said access by access, in every state that the access may meet: it takes nothing back, or it brings
something about at one of its accesses. Said like this of every thread, it holds of any order of
their turns.
-/

namespace ObjectStatus
namespace Routine

variable {State Result Other : Type} {assumed goal : State → Prop}

/-- As long as the other threads keep to what is assumed, the routine keeps to it, too, and no access
of it takes the goal back. -/
def Keeps (assumed goal : State → Prop) : Routine State Result → Prop
  | .finished _ => True
  | .access update next =>
      ∀ seen, assumed seen →
        assumed (update seen) ∧ (goal seen → goal (update seen)) ∧ (next seen).Keeps assumed goal

/-- As long as the other threads keep to what is assumed, the routine is not over before one of its
accesses has brought the goal about. -/
def Reaches (assumed goal : State → Prop) : Routine State Result → Prop
  | .finished _ => False
  | .access update next =>
      ∀ seen, assumed seen → goal (update seen) ∨ (next seen).Reaches assumed goal

/-! ## Routines made of routines -/

@[simp] theorem keeps_pure (result : Result) :
    (pure result : Routine State Result).Keeps assumed goal := trivial

@[simp] theorem keeps_read (view : State → Result) : (read view).Keeps assumed goal :=
  fun _ holds => ⟨holds, id, trivial⟩

theorem keeps_write
    {update : State → State}
    (keeps :
      ∀ seen, assumed seen → assumed (update seen) ∧ (goal seen → goal (update seen))) :
    (write update).Keeps assumed goal :=
  fun seen holds => ⟨(keeps seen holds).1, (keeps seen holds).2, trivial⟩

theorem Keeps.bind
    {routine : Routine State Result}
    {next : Result → Routine State Other}
    (keeps : routine.Keeps assumed goal)
    (keeps_next : ∀ result, (next result).Keeps assumed goal) :
    (routine >>= next).Keeps assumed goal := by
  induction routine with
  | finished result => exact keeps_next result
  | access update rest inductionHypothesis =>
      intro seen holds
      obtain ⟨kept, not_back, keeps_rest⟩ := keeps seen holds
      exact ⟨kept, not_back, inductionHypothesis seen keeps_rest⟩

/-- What comes after an access to look at the state has to be good for the states that lead to it
only. -/
theorem keeps_read_bind
    {view : State → Result}
    {next : Result → Routine State Other}
    (keeps_next : ∀ seen, assumed seen → (next (view seen)).Keeps assumed goal) :
    (read view >>= next).Keeps assumed goal :=
  fun seen holds => ⟨holds, id, keeps_next seen holds⟩

theorem keeps_exchange_bind
    {view : State → Result}
    {update : State → State}
    {next : Result → Routine State Other}
    (keeps :
      ∀ seen, assumed seen →
        assumed (update seen) ∧ (goal seen → goal (update seen)) ∧
          (next (view seen)).Keeps assumed goal) :
    (exchange view update >>= next).Keeps assumed goal := keeps

theorem reaches_write
    {update : State → State}
    (reaches : ∀ seen, assumed seen → goal (update seen)) :
    (write update).Reaches assumed goal :=
  fun seen holds => Or.inl (reaches seen holds)

theorem Reaches.bind
    {routine : Routine State Result}
    (reaches : routine.Reaches assumed goal)
    (next : Result → Routine State Other) : (routine >>= next).Reaches assumed goal := by
  induction routine with
  | finished result => exact reaches.elim
  | access update rest inductionHypothesis =>
      intro seen holds
      rcases reaches seen holds with reached | reaches_rest
      · exact Or.inl reached
      · exact Or.inr (inductionHypothesis seen reaches_rest)

/-- A routine that has yet to come brings the goal about if nothing before it does. -/
theorem reaches_bind
    {next : Result → Routine State Other}
    (routine : Routine State Result)
    (reaches_next : ∀ result, (next result).Reaches assumed goal) :
    (routine >>= next).Reaches assumed goal := by
  induction routine with
  | finished result => exact reaches_next result
  | access update rest inductionHypothesis =>
      intro seen _
      exact Or.inr (inductionHypothesis seen)

/-! ## One access -/

theorem Keeps.step
    {routine : Routine State Result}
    {state : State}
    (keeps : routine.Keeps assumed goal)
    (holds : assumed state) :
    assumed (routine.step state).2 ∧ (goal state → goal (routine.step state).2) ∧
      (routine.step state).1.Keeps assumed goal := by
  cases routine with
  | finished result => exact ⟨holds, id, trivial⟩
  | access update next => exact keeps state holds

theorem Reaches.step
    {routine : Routine State Result}
    {state : State}
    (reaches : routine.Reaches assumed goal)
    (holds : assumed state) :
    goal (routine.step state).2 ∨ (routine.step state).1.Reaches assumed goal := by
  cases routine with
  | finished result => exact reaches.elim
  | access update next => exact reaches state holds

/-! ## Any order of the turns -/

namespace Pool

/-- The threads bring the goal about, and none of them takes it back. -/
structure Attains (assumed goal : State → Prop) (pool : Pool State Result) : Prop where
  /-- The state is as assumed. -/
  holds : assumed pool.state
  /-- No thread takes the goal back. -/
  keeps : ∀ routine ∈ pool.threads, routine.Keeps assumed goal
  /-- The goal has been brought about, or a thread has yet to do it. -/
  reached : goal pool.state ∨ ∃ routine ∈ pool.threads, routine.Reaches assumed goal

/-- A routine that is replaced is the only one that may be missing afterwards. -/
theorem mem_set_or_eq
    {threads : List (Routine State Result)}
    {number : Nat}
    {routine other : Routine State Result}
    (present : threads[number]? = some routine)
    (replacement : Routine State Result)
    (member : other ∈ threads) : other ∈ threads.set number replacement ∨ other = routine := by
  obtain ⟨place, at_place⟩ := List.mem_iff_getElem?.1 member
  by_cases same : place = number
  · subst same
    exact Or.inr (Option.some_inj.1 (at_place.symm.trans present))
  · rw [← List.getElem?_set_ne (Ne.symm same)] at at_place
    exact Or.inl (List.mem_of_getElem? at_place)

/-- A turn of any thread keeps what the threads attain. -/
theorem Attains.step
    {pool : Pool State Result}
    (attains : pool.Attains assumed goal)
    (number : Nat) : (pool.step number).Attains assumed goal := by
  unfold Pool.step
  cases present : pool.threads[number]? with
  | none => exact attains
  | some routine =>
      have member := List.mem_of_getElem? present
      obtain ⟨holds, not_back, keeps⟩ := (attains.keeps routine member).step attains.holds
      refine ⟨holds, ?_, ?_⟩
      · intro other other_member
        rcases List.mem_or_eq_of_mem_set other_member with unchanged | rfl
        · exact attains.keeps other unchanged
        · exact keeps
      · rcases attains.reached with reached | ⟨reacher, reacher_member, reaches⟩
        · exact Or.inl (not_back reached)
        · rcases mem_set_or_eq present (routine.step pool.state).1 reacher_member with
            still_there | rfl
          · exact Or.inr ⟨reacher, still_there, reaches⟩
          · refine (reaches.step attains.holds).imp_right fun reaches_rest => ?_
            have inRange := (List.getElem?_eq_some_iff.1 present).1
            exact ⟨_, List.mem_set inRange _, reaches_rest⟩

/-- So do the turns of a schedule. -/
theorem Attains.run
    {pool : Pool State Result}
    (attains : pool.Attains assumed goal)
    (schedule : List Nat) : (Pool.run schedule pool).Attains assumed goal := by
  induction schedule generalizing pool with
  | nil => exact attains
  | cons number rest inductionHypothesis => exact inductionHypothesis (attains.step number)

/-- The goal has been brought about once all threads are over. -/
theorem Attains.goal_of_isDone
    {pool : Pool State Result}
    (attains : pool.Attains assumed goal)
    (done : pool.IsDone) : goal pool.state := by
  rcases attains.reached with reached | ⟨routine, member, reaches⟩
  · exact reached
  · obtain ⟨result, rfl⟩ := done routine member
    exact reaches.elim

end Pool
end Routine
end ObjectStatus
