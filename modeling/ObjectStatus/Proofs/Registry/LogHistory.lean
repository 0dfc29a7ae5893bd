import ObjectStatus.Proofs.TransitionLog.Accounting
import ObjectStatus.Registry

/-!
# Histories of the logs in a registry

Whatever a script does to a registry, each log of it only sees calls on a log: its cells record
their changes in it, and the script records, pops and drains. This module names these calls, so
that what is known of a log by itself is known of every log in a registry.
-/

namespace ObjectStatus
namespace Registry

/-- The calls that a step makes on the log with this number. -/
def logCalls (registry : Registry) (number : Nat) : Step → List TransitionLog.Call
  | .openLog _ => []
  | .openCell _ _ => []
  | .onCell cell call =>
      match registry.cells[cell]? with
      | none => []
      | some cell =>
          if cell.log = some number then
            (call.change? cell.word).toList.map .record
          else
            []
  | .onLog log call => if log = number then [call] else []

/-- The calls that a script makes on the log with this number, one step after another. -/
def logHistory (registry : Registry) (number : Nat) : List Step → List TransitionLog.Call
  | [] => []
  | step :: rest =>
      registry.logCalls number step ++ (registry.step step).registry.logHistory number rest

/-- The entries of the log with this number in the reply to a step. -/
def repliedEntries (registry : Registry) (number : Nat) : Step → List Transition
  | .onLog log call =>
      match (registry.step (.onLog log call)).reply with
      | .handedOut entries => if log = number then entries else []
      | _ => []
  | _ => []

/-- The entries of the log with this number that a script has got from the registry. -/
def delivered (registry : Registry) (number : Nat) : List Step → List Transition
  | [] => []
  | step :: rest =>
      registry.repliedEntries number step ++ (registry.step step).registry.delivered number rest

theorem getElem?_recordIn
    {logs : List TransitionLog}
    {number : Nat}
    {log : TransitionLog}
    (present : logs[number]? = some log)
    (attached : Option Nat)
    (change : Option Transition) :
    (recordIn logs attached change)[number]? =
      some (log.run
        (if attached = some number then change.toList.map .record else [])) := by
  cases attached with
  | none => simp [recordIn, present]
  | some other =>
      cases change with
      | none => simp [recordIn, present]
      | some transition =>
          by_cases same : other = number
          · simp [recordIn, present, same, TransitionLog.call]
          · simp [recordIn, present, same]

/-- A step changes a log by the calls that it makes on it. -/
theorem logs_step
    {registry : Registry}
    {number : Nat}
    {log : TransitionLog}
    (present : registry.logs[number]? = some log)
    (step : Step) :
    (registry.step step).registry.logs[number]? =
      some (log.run (registry.logCalls number step)) := by
  have inRange : number < registry.logs.length := (List.getElem?_eq_some_iff.1 present).1
  cases step with
  | openLog capacity =>
      simpa [Registry.step, logCalls, List.getElem?_append_left inRange] using present
  | openCell code attached => simpa [Registry.step, logCalls] using present
  | onCell cellNumber call =>
      cases found : registry.cells[cellNumber]? with
      | none => simpa [Registry.step, logCalls, found] using present
      | some cell =>
          simp only [Registry.step, logCalls, found]
          exact getElem?_recordIn present cell.log (call.change? cell.word)
  | onLog logNumber call =>
      by_cases same : logNumber = number
      · subst same
        simp only [Registry.step, logCalls, present, if_true]
        exact List.getElem?_set_self inRange
      · cases found : registry.logs[logNumber]? with
        | none => simpa [Registry.step, logCalls, found, same] using present
        | some other => simpa [Registry.step, logCalls, found, same] using present

theorem logs_run
    {registry : Registry}
    {number : Nat}
    {log : TransitionLog}
    (present : registry.logs[number]? = some log)
    (script : List Step) :
    (registry.run script).logs[number]? =
      some (log.run (registry.logHistory number script)) := by
  induction script generalizing registry log with
  | nil => exact present
  | cons step rest inductionHypothesis =>
      rw [run_cons, logHistory, TransitionLog.run_append]
      exact inductionHypothesis (logs_step present step)

/-- A step gets from a log what the log hands out. -/
theorem repliedEntries_eq
    {registry : Registry}
    {number : Nat}
    {log : TransitionLog}
    (present : registry.logs[number]? = some log)
    (step : Step) :
    registry.repliedEntries number step = log.handedOut (registry.logCalls number step) := by
  cases step with
  | openLog capacity => rfl
  | openCell code attached => rfl
  | onCell cellNumber call =>
      cases found : registry.cells[cellNumber]? with
      | none => simp [repliedEntries, logCalls, found, TransitionLog.handedOut]
      | some cell =>
          by_cases attached : cell.log = some number
          · cases changed : call.change? cell.word <;>
              simp [repliedEntries, logCalls, found, attached, changed, TransitionLog.handedOut,
                TransitionLog.call]
          · simp [repliedEntries, logCalls, found, attached, TransitionLog.handedOut]
  | onLog logNumber call =>
      by_cases same : logNumber = number
      · subst same
        simp [repliedEntries, logCalls, Registry.step, present, TransitionLog.handedOut]
      · cases found : registry.logs[logNumber]? <;>
          simp [repliedEntries, logCalls, Registry.step, found, same, TransitionLog.handedOut]

theorem delivered_eq
    {registry : Registry}
    {number : Nat}
    {log : TransitionLog}
    (present : registry.logs[number]? = some log)
    (script : List Step) :
    registry.delivered number script = log.handedOut (registry.logHistory number script) := by
  induction script generalizing registry log with
  | nil => rfl
  | cons step rest inductionHypothesis =>
      rw [delivered, logHistory, TransitionLog.handedOut_append, repliedEntries_eq present,
        inductionHypothesis (logs_step present step)]

end Registry
end ObjectStatus
