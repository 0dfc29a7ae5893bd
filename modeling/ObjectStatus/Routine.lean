/-!
# Routines

A routine is a program over a shared state, written as the atomic accesses that it makes to the
state: each access looks at the state, replaces it, and goes on with what it saw. A routine that
has the state to itself runs to its end; otherwise other routines may come in between two accesses.
-/

namespace ObjectStatus

/-- A program that makes a finite number of accesses to a state. -/
inductive Routine (State Result : Type)
  /-- The routine is over. -/
  | finished (result : Result)
  /-- Replace the state and go on with the state that was there. -/
  | access
      (update : State → State)
      (next : State → Routine State Result)

namespace Routine

variable {State Result Other : Type}

/-- One routine and then another that depends on its result. -/
def bind
    (routine : Routine State Result)
    (next : Result → Routine State Other) : Routine State Other :=
  match routine with
  | .finished result => next result
  | .access update rest => .access update fun seen => (rest seen).bind next

instance : Monad (Routine State) where
  pure := .finished
  bind := bind

/-- Look at the state. -/
def read (view : State → Result) : Routine State Result :=
  .access id fun seen => .finished (view seen)

/-- Replace the state. -/
def write (update : State → State) : Routine State Unit :=
  .access update fun _ => .finished ()

/-- Replace the state and look at what it was, in one access. -/
def exchange
    (view : State → Result)
    (update : State → State) : Routine State Result :=
  .access update fun seen => .finished (view seen)

theorem bind_finished (routine : Routine State Result) : routine.bind .finished = routine := by
  induction routine with
  | finished result => rfl
  | access update next inductionHypothesis => rw [bind, funext inductionHypothesis]

theorem bind_bind
    {Last : Type}
    (routine : Routine State Result)
    (next : Result → Routine State Other)
    (last : Other → Routine State Last) :
    (routine.bind next).bind last = routine.bind fun result => (next result).bind last := by
  induction routine with
  | finished result => rfl
  | access update rest inductionHypothesis => simp only [bind, inductionHypothesis]

/-- Routines one after the other are the same routine however they are grouped. -/
instance : LawfulMonad (Routine State) :=
  LawfulMonad.mk' (Routine State) bind_finished (fun _ _ => rfl) bind_bind

/-- One access of the routine. A routine that is over leaves the state alone. -/
def step : Routine State Result → State → Routine State Result × State
  | .finished result, state => (.finished result, state)
  | .access update next, state => (next state, update state)

/-- The result of the routine and the state that it leaves when nothing comes in between. -/
def runAlone : Routine State Result → State → Result × State
  | .finished result, state => (result, state)
  | .access update next, state => (next state).runAlone (update state)

@[simp] theorem runAlone_pure
    (result : Result)
    (state : State) :
    (pure result : Routine State Result).runAlone state = (result, state) := rfl

@[simp] theorem runAlone_read
    (view : State → Result)
    (state : State) :
    (read view).runAlone state = (view state, state) := rfl

@[simp] theorem runAlone_write
    (update : State → State)
    (state : State) :
    (write update).runAlone state = ((), update state) := rfl

@[simp] theorem runAlone_exchange
    (view : State → Result)
    (update : State → State)
    (state : State) :
    (exchange view update).runAlone state = (view state, update state) := rfl

/-- Alone, the second routine starts where the first one stops. -/
@[simp] theorem runAlone_bind
    (routine : Routine State Result)
    (next : Result → Routine State Other)
    (state : State) :
    (routine >>= next).runAlone state =
      (next (routine.runAlone state).1).runAlone (routine.runAlone state).2 := by
  induction routine generalizing state with
  | finished result => rfl
  | access update rest hypothesis => exact hypothesis state (update state)

/-- Only the result is changed. -/
@[simp] theorem runAlone_map
    (change : Result → Other)
    (routine : Routine State Result)
    (state : State) :
    (change <$> routine).runAlone state =
      (change (routine.runAlone state).1, (routine.runAlone state).2) :=
  runAlone_bind routine (fun result => pure (change result)) state

end Routine
end ObjectStatus
