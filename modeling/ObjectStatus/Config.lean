import ObjectStatus.Settings
import ObjectStatus.TransitionLog

/-!
# Configurations

A configuration holds the capacity of the logs to be opened and the settings for messages. It is
put together from the defaults, from the environment, or field by field, and takes effect when it
is applied to the settings of the process.
-/

namespace ObjectStatus

/-- The choices that a program can make for its logs and messages. -/
structure Config where
  /-- The capacity of a log opened with this configuration. -/
  logCapacity : Nat := 256
  /-- The least important level that is written. -/
  logLevel : Level := .info
  /-- Every message is flushed at once. -/
  flushLog : Bool := false
  deriving DecidableEq

namespace Config

/-- The configuration of a program that chooses nothing. -/
def default : Config := {}

/-- The variable with the capacity. -/
def capacityVariable : String := "MPR_LOG_CAPACITY"

/-- The configuration that the environment asks for. Each field has its own variable and keeps its
default when the variable is unset or cannot be read. -/
def ofEnvironment (environment : Environment) : Config where
  logCapacity :=
    max 1 ((environment.read? (Environment.unsignedReader 64) capacityVariable).getD
      default.logCapacity)
  logLevel := (environment.read? Level.read? Settings.levelVariable).getD default.logLevel
  flushLog := environment.switch Settings.flushVariable default.flushLog

/-- The configuration with this capacity, or with one if this is zero. -/
def withLogCapacity
    (config : Config)
    (capacity : Nat) : Config :=
  { config with logCapacity := max 1 capacity }

/-- The configuration with this level. -/
def withLogLevel
    (config : Config)
    (level : Level) : Config :=
  { config with logLevel := level }

/-- The configuration with this flush mode. -/
def withFlushLog
    (config : Config)
    (on : Bool) : Config :=
  { config with flushLog := on }

/-- One step in putting a configuration together. -/
inductive Step
  /-- Start over from the defaults. -/
  | reset
  /-- Start over from the environment. -/
  | fromEnvironment
  | logCapacity (capacity : Nat)
  | logLevel (level : Level)
  | flushLog (on : Bool)
  deriving DecidableEq

/-- The configuration after a step. -/
def step
    (environment : Environment)
    (config : Config) : Step → Config
  | .reset => default
  | .fromEnvironment => ofEnvironment environment
  | .logCapacity capacity => config.withLogCapacity capacity
  | .logLevel level => config.withLogLevel level
  | .flushLog on => config.withFlushLog on

/-- Choose the level and the flush mode of the configuration. -/
def apply (config : Config) : Routine Settings Unit := do
  Settings.chooseLevel config.logLevel
  Settings.chooseFlush config.flushLog

/-- An empty log of the configured capacity. -/
def openLog (config : Config) : TransitionLog :=
  TransitionLog.new config.logCapacity

/-- The configuration as a record. -/
def debugRecord (config : Config) : Text.Record :=
  ⟨"StatusConfig",
    [("log_capacity", String.ofList (Numeral.decimal config.logCapacity)),
      ("log_level", config.logLevel.name),
      ("flush_log", Text.Record.ofBool config.flushLog)]⟩

end Config
end ObjectStatus
