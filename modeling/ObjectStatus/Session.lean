import ObjectStatus.Config
import ObjectStatus.Registry

/-!
# Sessions

A session is the life of one process. It brings an environment, the settings, one configuration and
a registry together. Every step answers and may write messages. Whenever the word of a cell really
changes, a message about it is offered at level `debug`; whether a message is written is for the
settings to say, and nothing that is written or left out changes an answer about cells and logs.
-/

namespace ObjectStatus

/-- The state of a process between two steps. -/
structure Session where
  environment : Environment
  settings : Settings
  config : Config
  registry : Registry

namespace Session

/-- A session that has done nothing yet. -/
def start (environment : Environment) : Session where
  environment := environment
  settings := {}
  config := .default
  registry := .empty

/-- What a session is asked to do. -/
inductive Step
  /-- Work on cells and logs. -/
  | registry (step : Registry.Step)
  /-- Put the configuration together. -/
  | configure (step : Config.Step)
  /-- Choose the settings of the configuration. -/
  | apply
  /-- Take the settings over from the environment. -/
  | load
  /-- Ask for the effective level. -/
  | readLevel
  /-- Ask for the flush mode. -/
  | readFlush
  /-- Choose the level. -/
  | chooseLevel (level : Level)
  /-- Choose the flush mode. -/
  | chooseFlush (on : Bool)
  /-- Ask whether messages of a level are written. -/
  | admits (level : Level)
  /-- Offer a message. -/
  | emit (message : Message)
  /-- Set a variable of the environment. -/
  | setVariable (name : String) (bytes : List UInt8)
  /-- Unset a variable of the environment. -/
  | unsetVariable (name : String)
  deriving DecidableEq

/-- What a session answers. -/
inductive Reply
  | nothing
  | level (level : Level)
  | flag (on : Bool)
  | registry (reply : Registry.Reply)
  deriving DecidableEq

/-- What a step does. -/
structure Effect where
  /-- The session after the step. -/
  session : Session
  /-- The reply to the step. -/
  reply : Reply
  /-- The messages written, in order. -/
  written : List Message

/-- The message about a change of a word. -/
def changeMessage (change : Transition) : Message :=
  ⟨.debug, "status " ++ change.text⟩

/-- Run a routine on the settings of a session, with nothing in between. -/
def onSettings
    {Result : Type}
    (session : Session)
    (routine : Routine Settings Result) : Result × Session :=
  let (result, settings) := routine.runAlone session.settings
  (result, { session with settings := settings })

/-- Offer the message about a change, if there is one. -/
def announce
    (session : Session)
    (change : Option Transition) : List Message × Session :=
  match change with
  | none => ([], session)
  | some change =>
      session.onSettings (Settings.emit session.environment (changeMessage change))

/-- What a step does to a session. -/
def step (session : Session) : Step → Effect
  | .registry step =>
      let effect := session.registry.step step
      let (written, session) := session.announce effect.change
      ⟨{ session with registry := effect.registry }, .registry effect.reply, written⟩
  | .configure step =>
      ⟨{ session with config := session.config.step session.environment step }, .nothing, []⟩
  | .apply =>
      ⟨(session.onSettings session.config.apply).2, .nothing, []⟩
  | .load =>
      ⟨(session.onSettings (Settings.load session.environment)).2, .nothing, []⟩
  | .readLevel =>
      let (level, session) := session.onSettings (Settings.readLevel session.environment)
      ⟨session, .level level, []⟩
  | .readFlush =>
      let (on, session) := session.onSettings (Settings.readFlush session.environment)
      ⟨session, .flag on, []⟩
  | .chooseLevel level =>
      ⟨(session.onSettings (Settings.chooseLevel level)).2, .nothing, []⟩
  | .chooseFlush on =>
      ⟨(session.onSettings (Settings.chooseFlush on)).2, .nothing, []⟩
  | .admits level =>
      let (on, session) := session.onSettings (Settings.admits session.environment level)
      ⟨session, .flag on, []⟩
  | .emit message =>
      let (written, session) := session.onSettings (Settings.emit session.environment message)
      ⟨session, .nothing, written⟩
  | .setVariable name bytes =>
      ⟨{ session with environment := session.environment.set name bytes }, .nothing, []⟩
  | .unsetVariable name =>
      ⟨{ session with environment := session.environment.unset name }, .nothing, []⟩

/-- What each step of a script does in turn. -/
def trace : Session → List Step → List Effect
  | _, [] => []
  | session, step :: rest =>
      session.step step :: trace (session.step step).session rest

/-- The messages that a script writes. -/
def written
    (session : Session)
    (script : List Step) : List Message :=
  (session.trace script).flatMap fun effect => effect.written

@[simp] theorem trace_nil (session : Session) : session.trace [] = [] := rfl

@[simp] theorem trace_cons
    (session : Session)
    (step : Step)
    (rest : List Step) :
    session.trace (step :: rest) =
      session.step step :: (session.step step).session.trace rest := rfl

end Session
end ObjectStatus
