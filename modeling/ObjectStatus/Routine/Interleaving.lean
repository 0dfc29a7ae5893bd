import ObjectStatus.Routine

/-!
# Routines on shared state

Several threads, each with a routine, take turns at one state, one atomic access in a turn. A
schedule is the list of the threads whose turn it is, and nothing is assumed about it.
-/

namespace ObjectStatus
namespace Routine

/-- Threads that share a state. -/
structure Pool (State Result : Type) where
  /-- The state that the threads share. -/
  state : State
  /-- What is left of the routine of each thread. -/
  threads : List (Routine State Result)

namespace Pool

variable {State Result : Type}

/-- The pool after a turn of the thread with this number. -/
def step
    (pool : Pool State Result)
    (number : Nat) : Pool State Result :=
  match pool.threads[number]? with
  | none => pool
  | some routine =>
      let (routine, state) := routine.step pool.state
      ⟨state, pool.threads.set number routine⟩

/-- The pool after the turns of a schedule. -/
def run
    (schedule : List Nat)
    (pool : Pool State Result) : Pool State Result :=
  schedule.foldl step pool

/-- Every thread is over. -/
def IsDone (pool : Pool State Result) : Prop :=
  ∀ routine ∈ pool.threads, ∃ result, routine = .finished result

@[simp] theorem run_nil (pool : Pool State Result) : run [] pool = pool := rfl

@[simp] theorem run_cons
    (number : Nat)
    (rest : List Nat)
    (pool : Pool State Result) :
    run (number :: rest) pool = run rest (pool.step number) := rfl

/-- A schedule may be cut in two. -/
theorem run_append
    (first second : List Nat)
    (pool : Pool State Result) :
    run (first ++ second) pool = run second (run first pool) :=
  List.foldl_append

/-- No turn adds or removes a thread. -/
@[simp] theorem length_threads_step
    (pool : Pool State Result)
    (number : Nat) :
    (pool.step number).threads.length = pool.threads.length := by
  unfold step
  split <;> simp

end Pool
end Routine
end ObjectStatus
