import ObjectStatus.Proofs.Registry.Trail

/-!
# What a step leaves alone

A step on a cell changes the word of this cell and the log that the cell has, and a step on a log
changes this log. This module says what each step does to every cell and every log, and what it
leaves alone; and that two calls on cells without a common log lead to the same registry in both
orders.
-/

namespace ObjectStatus
namespace Registry

/-- A step, with the registry that it finds. -/
structure Moment where
  registry : Registry
  step : Step

/-- What the step does. -/
def Moment.effect (moment : Moment) : Effect :=
  moment.registry.step moment.step

/-- The registry after the step. -/
def Moment.after (moment : Moment) : Registry :=
  moment.effect.registry

/-- The steps of a script, each with the registry that it finds. -/
def moments : Registry → List Step → List Moment
  | _, [] => []
  | registry, step :: rest =>
      ⟨registry, step⟩ :: moments (registry.step step).registry rest

@[simp] theorem moments_nil (registry : Registry) : registry.moments [] = [] := rfl

@[simp] theorem moments_cons
    (registry : Registry)
    (step : Step)
    (rest : List Step) :
    registry.moments (step :: rest) =
      ⟨registry, step⟩ :: (registry.step step).registry.moments rest := rfl

@[simp] theorem map_step_moments
    (registry : Registry)
    (script : List Step) : (registry.moments script).map Moment.step = script := by
  induction script generalizing registry with
  | nil => rfl
  | cons step rest inductionHypothesis => simp [inductionHypothesis]

/-! ## What a step uses -/

/-- The step opens a cell or a log. -/
def Step.isOpening : Step → Bool
  | .openLog _ => true
  | .openCell _ _ => true
  | _ => false

/-- The number of the log that the cell has. -/
def logOf? (registry : Registry) (cell : Nat) : Option Nat :=
  registry.cells[cell]?.bind Cell.log

/-- The step names the log with this number, or a cell that has this log. -/
def UsesLog
    (registry : Registry)
    (number : Nat) : Step → Prop
  | .onCell cell _ => registry.logOf? cell = some number
  | .onLog log _ => log = number
  | _ => False

instance
    (registry : Registry)
    (number : Nat) : (step : Step) → Decidable (registry.UsesLog number step)
  | .openLog _ => isFalse id
  | .openCell _ _ => isFalse id
  | .onCell cell _ => inferInstanceAs (Decidable (registry.logOf? cell = some number))
  | .onLog log _ => inferInstanceAs (Decidable (log = number))

/-- The two cells have the same log. -/
def SharesLog
    (registry : Registry)
    (first second : Nat) : Prop :=
  ∃ number, registry.logOf? first = some number ∧ registry.logOf? second = some number

/-! ## What the steps do, told for every cell and log -/

/-- A call on a cell changes the word of this cell, if there is such a cell. -/
theorem cells_step_onCell
    (registry : Registry)
    (cell : Nat)
    (call : Cell.Call) :
    (registry.step (.onCell cell call)).registry.cells =
      registry.cells.modify cell fun found =>
        { found with word := (call.effect found.word).word } := by
  apply List.ext_getElem?
  intro index
  rw [List.getElem?_modify]
  by_cases same : cell = index
  · subst same
    cases found_eq : registry.cells[cell]? with
    | none => simp [Registry.step, found_eq]
    | some found => simpa using cell_step_onCell found_eq call
  · cases found_eq : registry.cells[cell]? with
    | none => simp [Registry.step, found_eq, same]
    | some found => simp [Registry.step, found_eq, same]

/-- A call on a log leaves the cells as they are. -/
theorem cells_step_onLog
    (registry : Registry)
    (log : Nat)
    (call : TransitionLog.Call) :
    (registry.step (.onLog log call)).registry.cells = registry.cells := by
  cases found_eq : registry.logs[log]? <;> simp [Registry.step, found_eq]

/-- The logs after a call on a cell. -/
theorem logs_step_onCell
    (registry : Registry)
    (cell : Nat)
    (call : Cell.Call) :
    (registry.step (.onCell cell call)).registry.logs =
      recordIn registry.logs (registry.logOf? cell)
        (registry.step (.onCell cell call)).change := by
  cases found_eq : registry.cells[cell]? with
  | none => simp [Registry.step, logOf?, recordIn, found_eq]
  | some found => simp [Registry.step, logOf?, found_eq]

theorem length_recordIn
    (logs : List TransitionLog)
    (log : Option Nat)
    (change : Option Transition) : (recordIn logs log change).length = logs.length := by
  cases log <;> cases change <;> simp [recordIn]

/-- Only an opening makes room for another cell or another log. -/
theorem lengths_step_of_isOpening_eq_false
    {step : Step}
    (kept : step.isOpening = false)
    (registry : Registry) :
    (registry.step step).registry.cells.length = registry.cells.length ∧
      (registry.step step).registry.logs.length = registry.logs.length := by
  cases step with
  | openLog capacity => contradiction
  | openCell code log => contradiction
  | onCell cell call =>
      rw [cells_step_onCell, logs_step_onCell, List.length_modify, length_recordIn]
      exact ⟨rfl, rfl⟩
  | onLog log call =>
      rw [cells_step_onLog]
      cases found_eq : registry.logs[log]? <;> simp [Registry.step, found_eq]

/-! ## What one step acts on -/

/-- A step acts only on the cell that it names and the log which this cell has, or on the log that
it names. -/
structure Moment.ActsLocally (moment : Moment) : Prop where
  /-- A cell that the step does not name is the same afterwards. -/
  other_cell_eq : ∀ (number : Nat) (cell : Cell), moment.registry.cells[number]? = some cell →
    moment.step.cell? ≠ some number → moment.after.cells[number]? = some cell
  /-- No cell gets another log. -/
  exists_word : ∀ (number : Nat) (cell : Cell), moment.registry.cells[number]? = some cell →
    ∃ word, moment.after.cells[number]? = some { cell with word := word }
  /-- A log that the step does not name, and that the cell which it names does not have, is the same
  afterwards. -/
  other_log_eq : ∀ (number : Nat) (log : TransitionLog),
    moment.registry.logs[number]? = some log →
      ¬moment.registry.UsesLog number moment.step → moment.after.logs[number]? = some log
  /-- Unless the step opens a cell or a log, there are as many of them as before. -/
  lengths_eq : moment.step.isOpening = false →
    moment.after.cells.length = moment.registry.cells.length ∧
      moment.after.logs.length = moment.registry.logs.length

theorem logCalls_of_not_usesLog
    {registry : Registry}
    {number : Nat}
    {step : Step}
    (unused : ¬registry.UsesLog number step) : registry.logCalls number step = [] := by
  cases step with
  | openLog capacity => rfl
  | openCell code log => rfl
  | onCell cell call =>
      cases found_eq : registry.cells[cell]? with
      | none => simp [logCalls, found_eq]
      | some found =>
          have detached : found.log ≠ some number := by
            simpa [UsesLog, logOf?, found_eq] using unused
          simp [logCalls, found_eq, detached]
  | onLog log call =>
      have apart : log ≠ number := unused
      simp [logCalls, apart]

theorem actsLocally (moment : Moment) : moment.ActsLocally where
  other_cell_eq := by
    intro number cell present unnamed
    exact cell_step_of_ne present unnamed
  exists_word := by
    intro number cell present
    by_cases named : moment.step.cell? = some number
    · obtain ⟨registry, step⟩ := moment
      cases step with
      | onCell other call =>
          obtain rfl : other = number := by simpa [Step.cell?] using named
          exact ⟨_, cell_step_onCell present call⟩
      | _ => contradiction
    · exact ⟨cell.word, cell_step_of_ne present named⟩
  other_log_eq := by
    intro number log present unused
    have after_eq := logs_step present moment.step
    rwa [logCalls_of_not_usesLog unused] at after_eq
  lengths_eq := by
    intro kept
    exact lengths_step_of_isOpening_eq_false kept moment.registry

/-! ## Two calls in both orders -/

theorem isNotedAlong_trace :
    IsNotedAlong (fun registry step => (registry.step step).registry)
      (fun registry step => [registry.step step]) trace where
  nil _ := rfl
  cons _ _ _ := rfl

theorem trace_append
    (registry : Registry)
    (first second : List Step) :
    registry.trace (first ++ second) =
      registry.trace first ++ (registry.run first).trace second :=
  isNotedAlong_trace.append registry first second

theorem recordIn_comm
    {first second : Option Nat}
    (apart : ∀ number, first = some number → second ≠ some number)
    (logs : List TransitionLog)
    (firstChange secondChange : Option Transition) :
    recordIn (recordIn logs first firstChange) second secondChange =
      recordIn (recordIn logs second secondChange) first firstChange := by
  cases first with
  | none => rfl
  | some number =>
      cases second with
      | none => rfl
      | some other =>
          have numbers_ne : number ≠ other := by
            intro same
            exact apart number rfl (congrArg some same.symm)
          cases firstChange with
          | none => rfl
          | some firstTransition =>
              cases secondChange with
              | none => rfl
              | some secondTransition => exact List.modify_modify_ne _ _ _ numbers_ne

/-- What is shown of a step apart from the registry that it leaves. -/
def Effect.outcome (effect : Effect) : Reply × Option Transition :=
  (effect.reply, effect.change)

/-- The outcome of a call on a cell is a matter of this cell. -/
theorem outcome_step_onCell_congr
    {first second : Registry}
    {cell : Nat}
    (cell_eq : first.cells[cell]? = second.cells[cell]?)
    (call : Cell.Call) :
    (first.step (.onCell cell call)).outcome = (second.step (.onCell cell call)).outcome := by
  simp only [Registry.step, Effect.outcome, cell_eq]
  cases second.cells[cell]? <;> rfl

theorem getElem?_cells_step_onCell_of_ne
    {cell other : Nat}
    (apart : cell ≠ other)
    (registry : Registry)
    (call : Cell.Call) :
    (registry.step (.onCell cell call)).registry.cells[other]? = registry.cells[other]? := by
  rw [cells_step_onCell, List.getElem?_modify_ne _ _ apart]

/-- Calls on two cells without a common log lead to the same registry in both orders. -/
theorem registry_step_onCell_comm
    {registry : Registry}
    {first second : Nat}
    (apart : first ≠ second)
    (unshared : ¬registry.SharesLog first second)
    (firstCall secondCall : Cell.Call) :
    ((registry.step (.onCell first firstCall)).registry.step (.onCell second secondCall)).registry =
      ((registry.step (.onCell second secondCall)).registry.step
        (.onCell first firstCall)).registry := by
  have first_cell := getElem?_cells_step_onCell_of_ne apart.symm registry secondCall
  have second_cell := getElem?_cells_step_onCell_of_ne apart registry firstCall
  have first_change :
      ((registry.step (.onCell second secondCall)).registry.step
          (.onCell first firstCall)).change =
        (registry.step (.onCell first firstCall)).change :=
    congrArg Prod.snd (outcome_step_onCell_congr first_cell firstCall)
  have second_change :
      ((registry.step (.onCell first firstCall)).registry.step
          (.onCell second secondCall)).change =
        (registry.step (.onCell second secondCall)).change :=
    congrArg Prod.snd (outcome_step_onCell_congr second_cell secondCall)
  have logs_apart : ∀ number, registry.logOf? first = some number →
      registry.logOf? second ≠ some number := by
    intro number first_has second_has
    exact unshared ⟨number, first_has, second_has⟩
  have first_log :
      (registry.step (.onCell second secondCall)).registry.logOf? first =
        registry.logOf? first := by
    rw [logOf?, first_cell, logOf?]
  have second_log :
      (registry.step (.onCell first firstCall)).registry.logOf? second =
        registry.logOf? second := by
    rw [logOf?, second_cell, logOf?]
  refine (Registry.mk.injEq _ _ _ _).mpr ⟨?_, ?_⟩
  · simp only [cells_step_onCell]
    exact List.modify_modify_ne _ _ _ apart
  · rw [logs_step_onCell, logs_step_onCell, logs_step_onCell, logs_step_onCell, first_log,
      second_log, first_change, second_change, recordIn_comm logs_apart]

end Registry
end ObjectStatus
