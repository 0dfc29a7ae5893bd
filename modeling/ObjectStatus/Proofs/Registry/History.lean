import ObjectStatus.Proofs.Registry.Frame

/-!
# The history of all words

The history of a registry is every change of a word that can be seen by comparing its cells before
and after each step. A step changes at most one word, so the changes come in an order. If all cells
have the same log, and nobody else records in it, the log is told exactly this history.
-/

namespace ObjectStatus

/-- If nothing was given up, everything that left was handed out. -/
theorem TransitionLog.Removal.taken_of_evicted_eq_nil
    {removals : List Removal}
    (complete : evicted removals = []) : taken removals = removals.map (·.entry) := by
  have kept : ∀ removal ∈ removals, removal.cause ≠ .evicted := by
    simpa [evicted] using complete
  rw [taken, List.filter_eq_self.2]
  intro removal member
  exact decide_eq_true (kept removal member)

namespace Registry

/-- The changes of words from some cells to the same cells later. A cell that has been opened in the
meantime has not changed. -/
def cellChanges (before after : List Cell) : List Transition :=
  (before.zip after).filterMap fun pair => Transition.ofWords? pair.1.word pair.2.word

theorem cellChanges_cons
    (cell later : Cell)
    (before after : List Cell) :
    cellChanges (cell :: before) (later :: after) =
      (Transition.ofWords? cell.word later.word).toList ++ cellChanges before after := by
  unfold cellChanges
  rw [List.zip_cons_cons, List.filterMap_cons]
  cases Transition.ofWords? cell.word later.word <;> rfl

/-- Cells that stay as they are make no changes, even if others join them. -/
theorem cellChanges_append (cells opened : List Cell) :
    cellChanges cells (cells ++ opened) = [] := by
  induction cells with
  | nil => rfl
  | cons cell rest inductionHypothesis =>
      rw [List.cons_append, cellChanges_cons, inductionHypothesis, Transition.ofWords?_self]
      rfl

@[simp] theorem cellChanges_self (cells : List Cell) : cellChanges cells cells = [] := by
  simpa using cellChanges_append cells []

/-- If one cell is modified, the change of its word is the only one. -/
theorem cellChanges_modify
    (cells : List Cell)
    (number : Nat)
    (modify : Cell → Cell) :
    cellChanges cells (cells.modify number modify) =
      (cells[number]?.bind fun cell =>
        Transition.ofWords? cell.word (modify cell).word).toList := by
  induction cells generalizing number with
  | nil => simp [cellChanges]
  | cons cell rest inductionHypothesis =>
      cases number with
      | zero => simp [cellChanges_cons]
      | succ number => simp [cellChanges_cons, inductionHypothesis]

/-- Every change of a word during a script, seen by comparing the cells before and after each
step. -/
def history : Registry → List Step → List Transition
  | _, [] => []
  | registry, step :: rest =>
      cellChanges registry.cells (registry.step step).registry.cells ++
        (registry.step step).registry.history rest

/-- The change that a step tells about is the one that can be seen. -/
theorem cellChanges_step (registry : Registry) (step : Step) :
    cellChanges registry.cells (registry.step step).registry.cells =
      (registry.step step).change.toList := by
  cases step with
  | openLog capacity => exact cellChanges_self registry.cells
  | openCell code log => exact cellChanges_append registry.cells [⟨code.word, log⟩]
  | onCell cell call =>
      rw [cells_step_onCell, cellChanges_modify]
      cases found_eq : registry.cells[cell]? with
      | none => simp [Registry.step, found_eq]
      | some found => simp [Registry.step, found_eq, Cell.Call.change?]
  | onLog log call =>
      rw [cells_step_onLog, cellChanges_self]
      cases found_eq : registry.logs[log]? <;> simp [Registry.step, found_eq]

/-! ## A log that all cells have -/

/-- Every cell has the log with this number. -/
def IsShared (registry : Registry) (number : Nat) : Prop :=
  ∀ cell ∈ registry.cells, cell.log = some number

instance (registry : Registry) (number : Nat) : Decidable (registry.IsShared number) :=
  inferInstanceAs (Decidable (∀ _ ∈ _, _))

/-- What all cells have now they have always had. -/
theorem IsShared.of_step
    {registry : Registry}
    {number : Nat}
    {step : Step}
    (shared : (registry.step step).registry.IsShared number) : registry.IsShared number := by
  intro cell member
  obtain ⟨index, present⟩ := List.getElem?_of_mem member
  obtain ⟨word, after⟩ := (actsLocally ⟨registry, step⟩).exists_word index cell present
  exact shared { cell with word := word } (List.mem_of_getElem? after)

theorem IsShared.of_run
    {registry : Registry}
    {number : Nat}
    {script : List Step}
    (shared : (registry.run script).IsShared number) : registry.IsShared number := by
  induction script generalizing registry with
  | nil => exact shared
  | cons step rest inductionHypothesis => exact (inductionHypothesis shared).of_step

/-- A step records in a log that all cells have what it changes, and nothing else. -/
theorem IsShared.recorded_step
    {registry : Registry}
    {number : Nat}
    (shared : registry.IsShared number)
    {step : Step}
    (indirect : ∀ transition, step ≠ .onLog number (.record transition)) :
    TransitionLog.recorded (registry.logCalls number step) =
      (registry.step step).change.toList := by
  cases step with
  | openLog capacity => rfl
  | openCell code log => rfl
  | onCell cell call =>
      cases found_eq : registry.cells[cell]? with
      | none => simp [logCalls, Registry.step, found_eq]
      | some found =>
          have attached := shared found (List.mem_of_getElem? found_eq)
          rw [recorded_logCalls_onCell found_eq attached, change_step_onCell found_eq]
  | onLog log call =>
      have unchanged : (registry.step (.onLog log call)).change = none := by
        cases found_eq : registry.logs[log]? <;> simp [Registry.step, found_eq]
      rw [unchanged, logCalls]
      split
      · next same =>
          subst same
          cases call with
          | record transition => exact absurd rfl (indirect transition)
          | pop => rfl
          | drain => rfl
      · rfl

/-- A log that all cells have, and in which nobody else records, is told the history. -/
theorem recorded_eq_history
    {registry : Registry}
    {number : Nat}
    {script : List Step}
    (shared : (registry.run script).IsShared number)
    (indirect : ∀ transition, .onLog number (.record transition) ∉ script) :
    TransitionLog.recorded (registry.logHistory number script) = registry.history script := by
  induction script generalizing registry with
  | nil => rfl
  | cons step rest inductionHypothesis =>
      have indirect_step : ∀ transition, step ≠ .onLog number (.record transition) := by
        rintro transition rfl
        exact indirect transition List.mem_cons_self
      have indirect_rest : ∀ transition, .onLog number (.record transition) ∉ rest := by
        intro transition member
        exact indirect transition (List.mem_cons_of_mem step member)
      have shared_now : registry.IsShared number := IsShared.of_run shared
      rw [logHistory, history, TransitionLog.recorded_append,
        shared_now.recorded_step indirect_step, cellChanges_step,
        inductionHypothesis shared indirect_rest]

theorem isNotedAlong_logHistory (number : Nat) :
    IsNotedAlong (fun (registry : Registry) step => (registry.step step).registry)
      (fun registry step => registry.logCalls number step)
      fun registry script => registry.logHistory number script where
  nil _ := rfl
  cons _ _ _ := rfl

theorem logHistory_append
    (registry : Registry)
    (number : Nat)
    (first second : List Step) :
    registry.logHistory number (first ++ second) =
      registry.logHistory number first ++ (registry.run first).logHistory number second :=
  (isNotedAlong_logHistory number).append registry first second

/-- A new log that never had to give anything up delivers all that was recorded, once it is
drained. -/
theorem delivered_append_drain
    {registry : Registry}
    {number capacity : Nat}
    {script : List Step}
    (opened : registry.logs[number]? = some (TransitionLog.new capacity))
    (complete : registry.evicted number capacity script = []) :
    registry.delivered number (script ++ [.onLog number .drain]) =
      TransitionLog.recorded (registry.logHistory number script) := by
  have drained :
      (registry.run script).logHistory number [.onLog number .drain] = [.drain] := by
    simp [logHistory, logCalls]
  rw [delivered_eq opened, logHistory_append, drained, TransitionLog.handedOut_append,
    TransitionLog.recorded_eq_of_new capacity, TransitionLog.handedOut_eq_taken,
    TransitionLog.Removal.taken_of_evicted_eq_nil complete]
  simp [TransitionLog.call, TransitionLog.handedOut]

/-- If all cells have a new log, nobody else records in it, and it never has to give anything up,
then it delivers the history. -/
theorem delivered_eq_history
    {registry : Registry}
    {number capacity : Nat}
    {script : List Step}
    (opened : registry.logs[number]? = some (TransitionLog.new capacity))
    (shared : (registry.run script).IsShared number)
    (indirect : ∀ transition, .onLog number (.record transition) ∉ script)
    (complete : registry.evicted number capacity script = []) :
    registry.delivered number (script ++ [.onLog number .drain]) = registry.history script := by
  rw [delivered_append_drain opened complete, recorded_eq_history shared indirect]

end Registry
end ObjectStatus
