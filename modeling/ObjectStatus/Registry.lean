import ObjectStatus.Cell
import ObjectStatus.TransitionLog

/-!
# Registries

A registry holds cells and logs, each numbered in the order in which they were opened. Several
cells may share a log. A call on a cell changes that cell only, and hands the change of its word,
if it made one, to the log of the cell only.
-/

namespace ObjectStatus

/-- Cells and logs. -/
structure Registry where
  cells : List Cell
  logs : List TransitionLog
  deriving DecidableEq

namespace Registry

/-- The registry without cells and logs. -/
def empty : Registry :=
  ⟨[], []⟩

/-- What is asked of a registry. -/
inductive Step
  /-- Open a log. -/
  | openLog (capacity : Nat)
  /-- Open a cell that holds this code, with or without a log. -/
  | openCell (code : Code) (log : Option Nat)
  /-- Make a call on a cell. -/
  | onCell (cell : Nat) (call : Cell.Call)
  /-- Use a log directly. -/
  | onLog (log : Nat) (call : TransitionLog.Call)
  deriving DecidableEq

/-- What a registry answers. -/
inductive Reply
  /-- There is no cell or log with the number that was given. -/
  | absent
  /-- The number of the new cell or log. -/
  | opened (number : Nat)
  /-- The answer of the cell. -/
  | answered (answer : Cell.Answer)
  /-- The entries that the log hands out. -/
  | handedOut (entries : List Transition)
  deriving DecidableEq

/-- What a step does. -/
structure Effect where
  /-- The registry after the step. -/
  registry : Registry
  /-- The reply to the step. -/
  reply : Reply
  /-- The change of the word of a cell, if the step made one. -/
  change : Option Transition
  deriving DecidableEq

/-- The logs after a change of a cell with this log. -/
def recordIn
    (logs : List TransitionLog)
    (log : Option Nat)
    (change : Option Transition) : List TransitionLog :=
  match log, change with
  | some number, some transition => logs.modify number fun log => log.record transition
  | _, _ => logs

/-- What a step does to a registry. -/
def step (registry : Registry) : Step → Effect
  | .openLog capacity =>
      { registry := { registry with logs := registry.logs ++ [TransitionLog.new capacity] }
        reply := .opened registry.logs.length
        change := none }
  | .openCell code log =>
      { registry := { registry with cells := registry.cells ++ [⟨code.word, log⟩] }
        reply := .opened registry.cells.length
        change := none }
  | .onCell number call =>
      match registry.cells[number]? with
      | none => ⟨registry, .absent, none⟩
      | some cell =>
          let effect := call.effect cell.word
          let change := call.change? cell.word
          { registry :=
              { cells := registry.cells.set number { cell with word := effect.word }
                logs := recordIn registry.logs cell.log change }
            reply := .answered effect.answer
            change := change }
  | .onLog number call =>
      match registry.logs[number]? with
      | none => ⟨registry, .absent, none⟩
      | some log =>
          let (entries, log) := log.call call
          { registry := { registry with logs := registry.logs.set number log }
            reply := .handedOut entries
            change := none }

/-- What each step of a script does in turn. -/
def trace : Registry → List Step → List Effect
  | _, [] => []
  | registry, step :: rest =>
      registry.step step :: trace (registry.step step).registry rest

/-- The registry after a script. -/
def run
    (registry : Registry)
    (script : List Step) : Registry :=
  script.foldl (fun registry step => (registry.step step).registry) registry

@[simp] theorem run_nil (registry : Registry) : registry.run [] = registry := rfl

@[simp] theorem run_cons
    (registry : Registry)
    (step : Step)
    (rest : List Step) :
    registry.run (step :: rest) = (registry.step step).registry.run rest := rfl

@[simp] theorem trace_nil (registry : Registry) : registry.trace [] = [] := rfl

@[simp] theorem trace_cons
    (registry : Registry)
    (step : Step)
    (rest : List Step) :
    registry.trace (step :: rest) =
      registry.step step :: (registry.step step).registry.trace rest := rfl

end Registry
end ObjectStatus
