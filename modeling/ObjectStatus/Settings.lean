import ObjectStatus.Environment
import ObjectStatus.Level
import ObjectStatus.Routine

/-!
# Settings of a process

A process has one effective level and one flush mode for its messages. They are taken over from the
environment once, at the first moment they are needed. A setting that the program has chosen itself
is not taken over; the other one still is.

Every operation is a routine of atomic accesses to the settings, so that it can be run alone or
among others.
-/

namespace ObjectStatus

/-- The settings for messages. -/
structure Settings where
  /-- The environment has been looked at, or is about to be. -/
  loaded : Bool := false
  /-- The effective level. -/
  level : Level := .info
  /-- Every message is flushed at once. -/
  flush : Bool := false
  /-- The program has chosen the level. -/
  levelChosen : Bool := false
  /-- The program has chosen the flush mode. -/
  flushChosen : Bool := false
  deriving DecidableEq

namespace Settings

/-- The variable with the level. -/
def levelVariable : String := "MPR_LOG_LEVEL"

/-- The variable with the flush mode. -/
def flushVariable : String := "MPR_FLUSH_LOG"

/-- Replace a setting by a value from the environment, if there is one and the program has not
chosen the setting. -/
def takeOver
    {α : Type}
    (value : Option α)
    (chosen : Settings → Bool)
    (store : α → Settings → Settings) : Routine Settings Unit :=
  match value with
  | none => pure ()
  | some value => do
      if ← Routine.read chosen then
        pure ()
      else
        Routine.write (store value)

/-- The flush mode that the environment asks for. -/
def environmentFlush? (environment : Environment) : Option Bool :=
  (environment.text? flushVariable).map Environment.isSwitchedOn

/-- The level that the environment asks for; a text that is no level asks for `info`. -/
def environmentLevel? (environment : Environment) : Option Level :=
  (environment.text? levelVariable).map fun text => (Level.read? text).getD .info

/-- Take the settings over from the environment, unless that has been done. -/
def load (environment : Environment) : Routine Settings Unit := do
  let before ← Routine.exchange loaded fun settings => { settings with loaded := true }
  if before then
    pure ()
  else
    takeOver (environmentFlush? environment) flushChosen
      fun value settings => { settings with flush := value }
    takeOver (environmentLevel? environment) levelChosen
      fun value settings => { settings with level := value }

/-- Take the settings over from the environment if nobody seems to have done so. -/
def ensureLoaded (environment : Environment) : Routine Settings Unit := do
  if ← Routine.read loaded then
    pure ()
  else
    load environment

/-- The effective level. -/
def readLevel (environment : Environment) : Routine Settings Level := do
  ensureLoaded environment
  Routine.read level

/-- The flush mode. -/
def readFlush (environment : Environment) : Routine Settings Bool := do
  ensureLoaded environment
  Routine.read flush

/-- Choose the level. -/
def chooseLevel (value : Level) : Routine Settings Unit := do
  Routine.write fun settings => { settings with levelChosen := true }
  Routine.write fun settings => { settings with level := value }

/-- Choose the flush mode. -/
def chooseFlush (value : Bool) : Routine Settings Unit := do
  Routine.write fun settings => { settings with flushChosen := true }
  Routine.write fun settings => { settings with flush := value }

/-- Messages of this level are written. At `off` the answer needs no look at the settings. -/
def admits
    (environment : Environment)
    (level : Level) : Routine Settings Bool :=
  if level = .off then
    pure false
  else do
    let effective ← readLevel environment
    pure (decide (level ≤ effective))

/-- Write a message if its level is admitted. The result is what is written. -/
def emit
    (environment : Environment)
    (message : Message) : Routine Settings (List Message) := do
  if ← admits environment message.level then
    let _ ← readFlush environment
    pure [message]
  else
    pure []

end Settings
end ObjectStatus
