import ObjectStatus.Routine.Interleaving
import ObjectStatus.Settings

/-!
# Settings shared by threads

The threads of a process may load, read and choose the settings at the same time. Each of their
calls is a routine of single accesses, and the accesses of different threads come in any order.
-/

namespace ObjectStatus
namespace Settings

/-- What a thread does with the settings. -/
inductive Call
  | load
  | readLevel
  | readFlush
  | chooseLevel (level : Level)
  | chooseFlush (on : Bool)
  deriving DecidableEq

/-- The accesses that a call makes. What it reads is of no matter here. -/
def Call.routine (environment : Environment) : Call → Routine Settings Unit
  | .load => Settings.load environment
  | .readLevel => do
      let _ ← Settings.readLevel environment
      pure ()
  | .readFlush => do
      let _ ← Settings.readFlush environment
      pure ()
  | .chooseLevel level => Settings.chooseLevel level
  | .chooseFlush on => Settings.chooseFlush on

/-- The accesses that a thread makes for its calls, one call after the other. -/
def thread (environment : Environment) : List Call → Routine Settings Unit
  | [] => pure ()
  | call :: rest => do
      call.routine environment
      thread environment rest

/-- The threads of a fresh process, each about to make its calls. -/
def fresh
    (environment : Environment)
    (programs : List (List Call)) : Routine.Pool Settings Unit :=
  ⟨{}, programs.map (thread environment)⟩

end Settings
end ObjectStatus
