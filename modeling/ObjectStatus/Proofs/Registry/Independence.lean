import ObjectStatus.Proofs.Registry.Frame

/-!
# Cells and logs that have nothing to do with each other

A cell goes its own way whatever is done to other cells, and a log sees nothing of the steps that
neither name it nor a cell that has it. This module says so of whole scripts: the steps that do not
matter to a cell or to a log may be left out, and two calls on cells without a common log may change
places.
-/

namespace ObjectStatus
namespace Registry

/-! ## Leaving steps out -/

section Projection

variable {View Shown : Type} (keep : Moment → Bool) (view : Registry → View)
  (look : Moment → Shown)

/-- If the steps that are not kept do not touch the view, and if the view tells what the kept steps
show and which view they leave, then the kept steps show by themselves what they show in the whole
script, and the view at the end is the same. -/
theorem look_moments_filter
    (dropped : ∀ moment, keep moment = false → view moment.after = view moment.registry)
    (kept : ∀ step first second, view first = view second → keep ⟨first, step⟩ = true →
      look ⟨first, step⟩ = look ⟨second, step⟩ ∧
        view (first.step step).registry = view (second.step step).registry)
    {first second : Registry}
    (view_eq : view first = view second)
    (script : List Step) :
    ((first.moments script).filter keep).map look =
        (second.moments (((first.moments script).filter keep).map Moment.step)).map look ∧
      view (first.run script) =
        view (second.run (((first.moments script).filter keep).map Moment.step)) := by
  -- The second registry only makes the steps that are kept, and waits at the others.
  induction script generalizing first second with
  | nil => exact ⟨rfl, view_eq⟩
  | cons step rest inductionHypothesis =>
      rw [moments_cons, run_cons]
      cases keep_eq : keep ⟨first, step⟩ with
      | false =>
          rw [List.filter_cons_of_neg (by simp [keep_eq])]
          exact inductionHypothesis ((dropped ⟨first, step⟩ keep_eq).trans view_eq)
      | true =>
          obtain ⟨look_eq, after_eq⟩ := kept step first second view_eq keep_eq
          obtain ⟨rest_eq, last_eq⟩ := inductionHypothesis after_eq
          rw [List.filter_cons_of_pos keep_eq, List.map_cons, List.map_cons, moments_cons,
            List.map_cons, run_cons, look_eq, rest_eq]
          exact ⟨rfl, last_eq⟩

end Projection

/-! ### One cell -/

/-- The step makes no call on another cell than this one. -/
def Step.sparesOthers (number : Nat) (step : Step) : Bool :=
  step.cell?.all fun cell => cell == number

/-- What is seen of one cell at a step: the reply, if the step calls the cell, and the cell
afterwards. -/
def Moment.shownOfCell (number : Nat) (moment : Moment) : Option Reply × Option Cell :=
  (if moment.step.cell? = some number then some moment.effect.reply else none,
    moment.after.cells[number]?)

/-- All that decides what a step does to one cell. -/
def cellView (number : Nat) (registry : Registry) : Nat × Option Cell :=
  (registry.cells.length, registry.cells[number]?)

theorem cellView_step_of_dropped
    {number : Nat}
    {step : Step}
    (dropped : step.sparesOthers number = false)
    (registry : Registry) :
    cellView number (registry.step step).registry = cellView number registry := by
  cases step with
  | onCell cell call =>
      have apart : cell ≠ number := by simpa [Step.sparesOthers, Step.cell?] using dropped
      rw [cellView, cells_step_onCell, List.length_modify, List.getElem?_modify_ne _ _ apart]
      rfl
  | _ => contradiction

theorem cellView_step_of_kept
    {number : Nat}
    {step : Step}
    (kept : step.sparesOthers number = true)
    {first second : Registry}
    (view_eq : cellView number first = cellView number second) :
    cellView number (first.step step).registry = cellView number (second.step step).registry := by
  obtain ⟨length_eq, cell_eq⟩ := Prod.mk.inj view_eq
  cases step with
  | openLog capacity => exact view_eq
  | openCell code log =>
      simp only [cellView, Registry.step, List.length_append, List.getElem?_append, length_eq,
        cell_eq]
  | onCell cell call =>
      obtain rfl : cell = number := by simpa [Step.sparesOthers, Step.cell?] using kept
      simp only [cellView, cells_step_onCell, List.length_modify, List.getElem?_modify_eq,
        length_eq, cell_eq]
  | onLog log call =>
      rw [cellView, cellView, cells_step_onLog, cells_step_onLog]
      exact view_eq

theorem shownOfCell_eq_of_cellView_eq
    {number : Nat}
    {step : Step}
    (kept : step.sparesOthers number = true)
    {first second : Registry}
    (view_eq : cellView number first = cellView number second) :
    Moment.shownOfCell number ⟨first, step⟩ = Moment.shownOfCell number ⟨second, step⟩ := by
  have cell_eq : first.cells[number]? = second.cells[number]? := (Prod.mk.inj view_eq).2
  have after_eq :
      (first.step step).registry.cells[number]? = (second.step step).registry.cells[number]? :=
    (Prod.mk.inj (cellView_step_of_kept kept view_eq)).2
  have reply_eq : step.cell? = some number →
      (first.step step).reply = (second.step step).reply := by
    intro named
    cases step with
    | onCell cell call =>
        obtain rfl : cell = number := by simpa [Step.cell?] using named
        simp only [Registry.step, cell_eq]
        cases second.cells[cell]? <;> rfl
    | _ => contradiction
  unfold Moment.shownOfCell
  split
  · next named => exact Prod.ext (congrArg some (reply_eq named)) after_eq
  · exact congrArg (Prod.mk none) after_eq

/-- The steps that are kept for a cell can be found in the script itself. -/
theorem map_step_filter_moments
    (keep : Step → Bool)
    (registry : Registry)
    (script : List Step) :
    ((registry.moments script).filter fun moment => keep moment.step).map Moment.step =
      script.filter keep := by
  calc
    _ = ((registry.moments script).map Moment.step).filter keep := List.filter_map.symm
    _ = script.filter keep := by rw [map_step_moments]

/-- A cell goes its own way: what is asked of other cells may be left out. -/
theorem shownOfCell_moments_filter
    (number : Nat)
    (registry : Registry)
    (script : List Step) :
    ((registry.moments script).filter fun moment => moment.step.sparesOthers number).map
          (Moment.shownOfCell number) =
        (registry.moments (script.filter (Step.sparesOthers number))).map
          (Moment.shownOfCell number) ∧
      (registry.run script).cells[number]? =
        (registry.run (script.filter (Step.sparesOthers number))).cells[number]? := by
  have projected :=
    look_moments_filter
      (fun moment => moment.step.sparesOthers number)
      (cellView number)
      (Moment.shownOfCell number)
      (fun moment dropped => cellView_step_of_dropped dropped moment.registry)
      (fun step first second view_eq kept =>
        ⟨shownOfCell_eq_of_cellView_eq kept view_eq, cellView_step_of_kept kept view_eq⟩)
      (Eq.refl (cellView number registry))
      script
  rw [map_step_filter_moments] at projected
  exact ⟨projected.1, (Prod.mk.inj projected.2).2⟩

/-! ### One log -/

/-- The step uses this log, or it opens something. An opening never changes what is there, but the
numbers by which later steps name cells and logs come from it. -/
def Moment.concernsLog (number : Nat) (moment : Moment) : Bool :=
  moment.step.isOpening || decide (moment.registry.UsesLog number moment.step)

/-- The steps of a script that concern one log. -/
def stepsForLog (registry : Registry) (number : Nat) (script : List Step) : List Step :=
  ((registry.moments script).filter (Moment.concernsLog number)).map Moment.step

/-- What is seen of one log at a step: the reply, and the log afterwards. -/
def Moment.shownOfLog (number : Nat) (moment : Moment) : Reply × Option TransitionLog :=
  (moment.effect.reply, moment.after.logs[number]?)

/-- The word of the cell, if the cell has the log with this number. -/
def attachedWord?
    (registry : Registry)
    (number cell : Nat) : Option Word :=
  registry.cells[cell]?.bind fun found =>
    if found.log = some number then some found.word else none

/-- All that decides what a step does to one log. -/
@[ext]
structure LogView where
  cellCount : Nat
  /-- The words of the cells that have the log. -/
  word? : Nat → Option Word
  logCount : Nat
  log : Option TransitionLog

/-- The view that a registry gives of one log. -/
def logView (number : Nat) (registry : Registry) : LogView where
  cellCount := registry.cells.length
  word? := registry.attachedWord? number
  logCount := registry.logs.length
  log := registry.logs[number]?

/-- A cell that has the log is used for it. -/
theorem isSome_attachedWord?
    (registry : Registry)
    (number cell : Nat) :
    (registry.attachedWord? number cell).isSome = true ↔ registry.logOf? cell = some number := by
  cases found_eq : registry.cells[cell]? with
  | none => simp [attachedWord?, logOf?, found_eq]
  | some found => simp [attachedWord?, logOf?, found_eq]

theorem logCalls_onCell
    (registry : Registry)
    (number cell : Nat)
    (call : Cell.Call) :
    registry.logCalls number (.onCell cell call) =
      ((registry.attachedWord? number cell).bind call.change?).toList.map .record := by
  cases found_eq : registry.cells[cell]? with
  | none => simp [logCalls, attachedWord?, found_eq]
  | some found =>
      by_cases attached : found.log = some number <;>
        simp [logCalls, attachedWord?, found_eq, attached]

theorem attachedWord?_step_onCell
    (registry : Registry)
    (number cell : Nat)
    (call : Cell.Call)
    (index : Nat) :
    (registry.step (.onCell cell call)).registry.attachedWord? number index =
      (registry.attachedWord? number index).map fun word =>
        if cell = index then (call.effect word).word else word := by
  rw [attachedWord?, cells_step_onCell, List.getElem?_modify]
  cases found_eq : registry.cells[index]? with
  | none => simp [attachedWord?, found_eq]
  | some found =>
      by_cases attached : found.log = some number <;> by_cases same : cell = index <;>
        simp [attachedWord?, found_eq, attached, same]

/-- Unless a step opens something, it changes a log by the calls that it makes on it, if there is
such a log at all. -/
theorem getElem?_logs_step
    {step : Step}
    (kept : step.isOpening = false)
    (registry : Registry)
    (number : Nat) :
    (registry.step step).registry.logs[number]? =
      registry.logs[number]?.map fun log => log.run (registry.logCalls number step) := by
  cases found_eq : registry.logs[number]? with
  | none =>
      have beyond : (registry.step step).registry.logs.length ≤ number := by
        rw [(lengths_step_of_isOpening_eq_false kept registry).2]
        exact List.getElem?_eq_none_iff.1 found_eq
      exact List.getElem?_eq_none beyond
  | some log => exact logs_step found_eq step

theorem logView_step_of_dropped
    {number : Nat}
    {moment : Moment}
    (dropped : moment.concernsLog number = false) :
    logView number moment.after = logView number moment.registry := by
  obtain ⟨registry, step⟩ := moment
  obtain ⟨kept, unused⟩ : step.isOpening = false ∧ ¬registry.UsesLog number step := by
    simpa [Moment.concernsLog] using dropped
  obtain ⟨cells_length, logs_length⟩ := lengths_step_of_isOpening_eq_false kept registry
  have log_eq : (registry.step step).registry.logs[number]? = registry.logs[number]? := by
    rw [getElem?_logs_step kept, logCalls_of_not_usesLog unused]
    exact Option.map_id'
  have word_eq :
      (registry.step step).registry.attachedWord? number = registry.attachedWord? number := by
    funext index
    cases step with
    | openLog capacity => contradiction
    | openCell code log => contradiction
    | onCell cell call =>
        rw [attachedWord?_step_onCell]
        by_cases same : cell = index
        · subst same
          have detached : registry.attachedWord? number cell = none := by
            rw [← Option.not_isSome_iff_eq_none, isSome_attachedWord?]
            exact unused
          rw [detached]
          rfl
        · simp [same]
    | onLog log call => rw [attachedWord?, attachedWord?, cells_step_onLog]
  exact LogView.ext cells_length word_eq logs_length log_eq

theorem attachedWord?_step_openCell
    (registry : Registry)
    (number : Nat)
    (code : Code)
    (log : Option Nat)
    (index : Nat) :
    (registry.step (.openCell code log)).registry.attachedWord? number index =
      if index < registry.cells.length then
        registry.attachedWord? number index
      else
        [Cell.mk code.word log][index - registry.cells.length]?.bind fun found =>
          if found.log = some number then some found.word else none := by
  simp only [attachedWord?, Registry.step, List.getElem?_append]
  split <;> rfl

theorem reply_step_onCell_of_attached
    {registry : Registry}
    {number cell : Nat}
    {word : Word}
    (attached : registry.attachedWord? number cell = some word)
    (call : Cell.Call) :
    (registry.step (.onCell cell call)).reply = .answered (call.effect word).answer := by
  cases found_eq : registry.cells[cell]? with
  | none => simp [attachedWord?, found_eq] at attached
  | some found =>
      have word_eq : found.word = word := by
        simp only [attachedWord?, found_eq, Option.bind_some] at attached
        split at attached
        · exact Option.some.inj attached
        · contradiction
      rw [reply_step_onCell found_eq, word_eq]

/-- A step that opens nothing leaves equal views where it finds them, as long as it makes the same
calls on the log and changes the words of the cells alike. -/
theorem logView_step_of_isOpening_eq_false
    {number : Nat}
    {first second : Registry}
    (view_eq : logView number first = logView number second)
    {step : Step}
    (kept : step.isOpening = false)
    (calls_eq : first.logCalls number step = second.logCalls number step)
    (word_eq : ∀ index,
      (first.step step).registry.attachedWord? number index =
        (second.step step).registry.attachedWord? number index) :
    logView number (first.step step).registry = logView number (second.step step).registry := by
  obtain ⟨cells_length, -, logs_length, log_eq⟩ := LogView.mk.inj view_eq
  obtain ⟨first_cells, first_logs⟩ := lengths_step_of_isOpening_eq_false kept first
  obtain ⟨second_cells, second_logs⟩ := lengths_step_of_isOpening_eq_false kept second
  apply LogView.ext
  · exact first_cells.trans (cells_length.trans second_cells.symm)
  · exact funext word_eq
  · exact first_logs.trans (logs_length.trans second_logs.symm)
  · simp only [logView, getElem?_logs_step kept, log_eq, calls_eq]

theorem logView_step_congr
    {number : Nat}
    {first second : Registry}
    (view_eq : logView number first = logView number second)
    (step : Step) :
    logView number (first.step step).registry = logView number (second.step step).registry := by
  obtain ⟨cells_length, word_eq, logs_length, log_eq⟩ := LogView.mk.inj view_eq
  cases step with
  | openLog capacity =>
      apply LogView.ext
      · exact cells_length
      · exact word_eq
      · simp only [logView, Registry.step, List.length_append, logs_length]
      · simp only [logView, Registry.step, List.getElem?_append, logs_length, log_eq]
  | openCell code log =>
      apply LogView.ext
      · simp only [logView, Registry.step, List.length_append, cells_length]
      · funext index
        simp only [logView, attachedWord?_step_openCell, cells_length, word_eq]
      · exact logs_length
      · exact log_eq
  | onCell cell call =>
      apply logView_step_of_isOpening_eq_false view_eq rfl
      · rw [logCalls_onCell, logCalls_onCell, word_eq]
      · intro index
        rw [attachedWord?_step_onCell, attachedWord?_step_onCell, word_eq]
  | onLog log call =>
      apply logView_step_of_isOpening_eq_false view_eq rfl
      · rfl
      · intro index
        have word_index := congrFun word_eq index
        simpa only [attachedWord?, cells_step_onLog] using word_index

theorem reply_step_eq_of_logView_eq
    {number : Nat}
    {first second : Registry}
    (view_eq : logView number first = logView number second)
    {step : Step}
    (kept : Moment.concernsLog number ⟨first, step⟩ = true) :
    (first.step step).reply = (second.step step).reply := by
  obtain ⟨cells_length, word_eq, logs_length, log_eq⟩ := LogView.mk.inj view_eq
  cases step with
  | openLog capacity => exact congrArg Reply.opened logs_length
  | openCell code log => exact congrArg Reply.opened cells_length
  | onCell cell call =>
      have attached : first.UsesLog number (.onCell cell call) := by
        simpa [Moment.concernsLog, Step.isOpening] using kept
      obtain ⟨word, word_first⟩ :=
        Option.isSome_iff_exists.1 ((isSome_attachedWord? first number cell).2 attached)
      have word_second : second.attachedWord? number cell = some word := by
        rw [← word_eq, word_first]
      rw [reply_step_onCell_of_attached word_first, reply_step_onCell_of_attached word_second]
  | onLog log call =>
      have named : first.UsesLog number (.onLog log call) := by
        simpa [Moment.concernsLog, Step.isOpening] using kept
      obtain rfl : log = number := named
      simp only [Registry.step, log_eq]
      cases second.logs[log]? <;> rfl

/-- A log sees nothing of the steps that neither name it nor a cell that has it, so they may be left
out. -/
theorem shownOfLog_moments_filter
    (number : Nat)
    (registry : Registry)
    (script : List Step) :
    ((registry.moments script).filter (Moment.concernsLog number)).map
          (Moment.shownOfLog number) =
        (registry.moments (registry.stepsForLog number script)).map
          (Moment.shownOfLog number) ∧
      (registry.run script).logs[number]? =
        (registry.run (registry.stepsForLog number script)).logs[number]? := by
  obtain ⟨look_eq, view_eq⟩ :=
    look_moments_filter
      (Moment.concernsLog number)
      (logView number)
      (Moment.shownOfLog number)
      (fun moment dropped => logView_step_of_dropped dropped)
      (fun step first second view_eq kept =>
        have after_eq := logView_step_congr view_eq step
        ⟨Prod.ext (reply_step_eq_of_logView_eq view_eq kept) (congrArg LogView.log after_eq),
          after_eq⟩)
      (Eq.refl (logView number registry))
      script
  exact ⟨look_eq, congrArg LogView.log view_eq⟩

/-- Cells and logs keep apart in a script. -/
structure KeepsApart (registry : Registry) (script : List Step) : Prop where
  /-- Every step acts on what it names, and on the log of the cell that it names. -/
  acts_locally : ∀ moment ∈ registry.moments script, moment.ActsLocally
  /-- If the calls on other cells are left out, a cell replies as before to every call on it, and it
  is the same after every step that is left. -/
  cell_eq : ∀ number,
    ((registry.moments script).filter fun moment => moment.step.sparesOthers number).map
        (Moment.shownOfCell number) =
      (registry.moments (script.filter (Step.sparesOthers number))).map
        (Moment.shownOfCell number)
  /-- So it is the same at the end. -/
  cell_run_eq : ∀ number,
    (registry.run script).cells[number]? =
      (registry.run (script.filter (Step.sparesOthers number))).cells[number]?
  /-- If the steps are left out that neither name a log nor a cell that has it, every step that is
  left replies as before, and the log is the same after it. -/
  log_eq : ∀ number,
    ((registry.moments script).filter (Moment.concernsLog number)).map
        (Moment.shownOfLog number) =
      (registry.moments (registry.stepsForLog number script)).map (Moment.shownOfLog number)
  /-- So it is the same at the end. -/
  log_run_eq : ∀ number,
    (registry.run script).logs[number]? =
      (registry.run (registry.stepsForLog number script)).logs[number]?
  /-- If two calls on different cells without a common log stand next to each other, they may change
  places: both have the same outcome as before, they lead to the same registry, and nothing else
  is different. -/
  swap : ∀ before after first second firstCall secondCall,
    script = before ++ .onCell first firstCall :: .onCell second secondCall :: after →
      first ≠ second → ¬(registry.run before).SharesLog first second →
        ∃ firstEffect secondEffect firstEffect' secondEffect',
          registry.trace script =
            registry.trace before ++
              firstEffect :: secondEffect :: secondEffect.registry.trace after ∧
          registry.trace
              (before ++ .onCell second secondCall :: .onCell first firstCall :: after) =
            registry.trace before ++
              secondEffect' :: firstEffect' :: secondEffect.registry.trace after ∧
          firstEffect.outcome = firstEffect'.outcome ∧
          secondEffect.outcome = secondEffect'.outcome ∧
          secondEffect.registry = firstEffect'.registry

/-- Whatever cells and logs there are and whichever logs are shared, cells and logs keep apart. -/
theorem keepsApart (registry : Registry) (script : List Step) : registry.KeepsApart script where
  acts_locally := by
    intro moment _
    exact actsLocally moment
  cell_eq := by
    intro number
    exact (shownOfCell_moments_filter number registry script).1
  cell_run_eq := by
    intro number
    exact (shownOfCell_moments_filter number registry script).2
  log_eq := by
    intro number
    exact (shownOfLog_moments_filter number registry script).1
  log_run_eq := by
    intro number
    exact (shownOfLog_moments_filter number registry script).2
  swap := by
    rintro before after first second firstCall secondCall rfl apart unshared
    have registry_eq := registry_step_onCell_comm apart unshared firstCall secondCall
    have first_outcome :=
      outcome_step_onCell_congr
        (getElem?_cells_step_onCell_of_ne apart.symm (registry.run before) secondCall) firstCall
    have second_outcome :=
      outcome_step_onCell_congr
        (getElem?_cells_step_onCell_of_ne apart (registry.run before) firstCall) secondCall
    refine ⟨_, _, _, (registry.run before).step (.onCell second secondCall),
      trace_append registry before _, ?_, first_outcome.symm, second_outcome, registry_eq⟩
    rw [trace_append, trace_cons, trace_cons, registry_eq]

end Registry
end ObjectStatus
