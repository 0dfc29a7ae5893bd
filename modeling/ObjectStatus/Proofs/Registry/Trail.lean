import ObjectStatus.Proofs.Registry.LogHistory
import ObjectStatus.Proofs.Runs
import ObjectStatus.Proofs.Transition.Trail

/-!
# The trail of a cell

A log that one cell alone records in is an exact trail of the word of that cell: each of the calls
on the cell is recorded if it changed the word, and only then. What the log still has is the end of
the trail, whatever was taken from it or given up meanwhile.
-/

namespace ObjectStatus
namespace Registry

/-- The cell that a step calls, if it calls one. -/
def Step.cell? : Step → Option Nat
  | .onCell cell _ => some cell
  | _ => none

/-- Whenever a script records in the log with this number, it does so by a call on this cell. -/
def IsSoleWriter
    (registry : Registry)
    (cell number : Nat) : List Step → Prop
  | [] => True
  | step :: rest =>
      (TransitionLog.recorded (registry.logCalls number step) ≠ [] → step.cell? = some cell) ∧
        (registry.step step).registry.IsSoleWriter cell number rest

/-- The change of the word of a cell between two registries. -/
def change?
    (cell : Nat)
    (before after : Registry) : Option Transition :=
  match before.cells[cell]?, after.cells[cell]? with
  | some source, some target => Transition.ofWords? source.word target.word
  | _, _ => none

/-- The changes of the word of a cell during a script, seen by comparing the registry before and
after each step. -/
def changes
    (registry : Registry)
    (cell : Nat) : List Step → List Transition
  | [] => []
  | step :: rest =>
      (change? cell registry (registry.step step).registry).toList ++
        (registry.step step).registry.changes cell rest

/-! ## Cells that nobody else shares a log with -/

/-- No other cell records in the log of this cell. -/
def IsUnshared
    (registry : Registry)
    (cell number : Nat) : Prop :=
  ∀ other sharer, registry.cells[other]? = some sharer → sharer.log = some number → other = cell

/-- A step opens no cell with this log and does not record in it directly. -/
def Step.LeavesAlone (number : Nat) : Step → Prop
  | .openCell _ log => log ≠ some number
  | .onLog log (.record _) => log ≠ number
  | _ => True

instance (number : Nat) : (step : Step) → Decidable (step.LeavesAlone number)
  | .openLog _ => isTrue trivial
  | .openCell _ log => inferInstanceAs (Decidable (log ≠ some number))
  | .onCell _ _ => isTrue trivial
  | .onLog log (.record _) => inferInstanceAs (Decidable (log ≠ number))
  | .onLog _ .pop => isTrue trivial
  | .onLog _ .drain => isTrue trivial

/-- A cell that is opened with a log that no cell has is the only one to have it. -/
theorem isUnshared_openCell
    {registry : Registry}
    {number : Nat}
    (unused : ∀ cell ∈ registry.cells, cell.log ≠ some number)
    (code : Code) :
    (registry.step (.openCell code (some number))).registry.IsUnshared
      registry.cells.length number := by
  intro other sharer present attached
  have inRange := (List.getElem?_eq_some_iff.1 present).1
  simp only [Registry.step, List.length_append, List.length_singleton] at inRange
  by_cases earlier : other < registry.cells.length
  · simp only [Registry.step, List.getElem?_append_left earlier] at present
    exact absurd attached (unused sharer (List.mem_of_getElem? present))
  · omega

/-- A cell was there before the step with the same log, or the step has opened it. -/
theorem opened_or_found
    {registry : Registry}
    {step : Step}
    {number : Nat}
    {cell : Cell}
    (present : (registry.step step).registry.cells[number]? = some cell) :
    (∃ code, step = .openCell code cell.log) ∨
      ∃ earlier, registry.cells[number]? = some earlier ∧ earlier.log = cell.log := by
  cases step with
  | openLog capacity => exact Or.inr ⟨cell, present, rfl⟩
  | openCell code log =>
      by_cases inRange : number < registry.cells.length
      · right
        refine ⟨cell, ?_, rfl⟩
        simpa [Registry.step, List.getElem?_append_left inRange] using present
      · left
        have member : cell ∈ [Cell.mk code.word log] := by
          rw [Registry.step, List.getElem?_append_right (Nat.le_of_not_lt inRange)] at present
          exact List.mem_of_getElem? present
        obtain rfl := List.mem_singleton.1 member
        exact ⟨code, rfl⟩
  | onCell called call =>
      right
      cases found : registry.cells[called]? with
      | none => exact ⟨cell, by simpa [Registry.step, found] using present, rfl⟩
      | some earlier =>
          simp only [Registry.step, found, List.getElem?_set] at present
          split at present
          · split at present
            · obtain rfl := Option.some.inj present
              subst number
              exact ⟨earlier, found, rfl⟩
            · contradiction
          · exact ⟨cell, present, rfl⟩
  | onLog log call =>
      right
      refine ⟨cell, ?_, rfl⟩
      cases found : registry.logs[log]? <;> simpa [Registry.step, found] using present

theorem IsUnshared.step
    {registry : Registry}
    {cell number : Nat}
    (unshared : registry.IsUnshared cell number)
    {step : Step}
    (alone : step.LeavesAlone number) :
    (registry.step step).registry.IsUnshared cell number := by
  intro other sharer present attached
  rcases opened_or_found present with ⟨code, rfl⟩ | ⟨earlier, found, log_eq⟩
  · exact absurd attached alone
  · exact unshared other earlier found (log_eq.trans attached)

/-- The cell of an unshared log is its only writer in a step that leaves the log alone. -/
theorem IsUnshared.cell?_eq
    {registry : Registry}
    {cell number : Nat}
    (unshared : registry.IsUnshared cell number)
    {step : Step}
    (alone : step.LeavesAlone number)
    (records : TransitionLog.recorded (registry.logCalls number step) ≠ []) :
    step.cell? = some cell := by
  cases step with
  | openLog capacity => contradiction
  | openCell code log => contradiction
  | onCell called call =>
      cases found : registry.cells[called]? with
      | none => simp [logCalls, found] at records
      | some sharer =>
          by_cases attached : sharer.log = some number
          · rw [Step.cell?, unshared called sharer found attached]
          · simp [logCalls, found, attached] at records
  | onLog log call =>
      cases call with
      | record transition =>
          have apart : log ≠ number := alone
          simp [logCalls, apart] at records
      | pop =>
          by_cases same : log = number <;>
            simp [logCalls, same, TransitionLog.Call.recorded] at records
      | drain =>
          by_cases same : log = number <;>
            simp [logCalls, same, TransitionLog.Call.recorded] at records

/-- The cell of an unshared log is its only writer in every script that leaves the log alone. -/
theorem isSoleWriter_of_isUnshared
    {registry : Registry}
    {cell number : Nat}
    (unshared : registry.IsUnshared cell number)
    {script : List Step}
    (alone : ∀ step ∈ script, step.LeavesAlone number) :
    registry.IsSoleWriter cell number script := by
  induction script generalizing registry with
  | nil => trivial
  | cons step rest inductionHypothesis =>
      have step_alone : step.LeavesAlone number := alone step List.mem_cons_self
      refine ⟨unshared.cell?_eq step_alone, inductionHypothesis (unshared.step step_alone) ?_⟩
      intro later member
      exact alone later (List.mem_cons_of_mem step member)

/-! ## One step -/

theorem cell_step_onCell
    {registry : Registry}
    {number : Nat}
    {cell : Cell}
    (present : registry.cells[number]? = some cell)
    (call : Cell.Call) :
    (registry.step (.onCell number call)).registry.cells[number]? =
      some { cell with word := (call.effect cell.word).word } := by
  have inRange : number < registry.cells.length := (List.getElem?_eq_some_iff.1 present).1
  simp only [Registry.step, present]
  exact List.getElem?_set_self inRange

theorem reply_step_onCell
    {registry : Registry}
    {number : Nat}
    {cell : Cell}
    (present : registry.cells[number]? = some cell)
    (call : Cell.Call) :
    (registry.step (.onCell number call)).reply = .answered (call.effect cell.word).answer := by
  simp only [Registry.step, present]

theorem change_step_onCell
    {registry : Registry}
    {number : Nat}
    {cell : Cell}
    (present : registry.cells[number]? = some cell)
    (call : Cell.Call) :
    (registry.step (.onCell number call)).change = call.change? cell.word := by
  simp only [Registry.step, present]

/-- A call records its change in the log of the cell. -/
theorem recorded_logCalls_onCell
    {registry : Registry}
    {number log : Nat}
    {cell : Cell}
    (present : registry.cells[number]? = some cell)
    (attached : cell.log = some log)
    (call : Cell.Call) :
    TransitionLog.recorded (registry.logCalls log (.onCell number call)) =
      (call.change? cell.word).toList := by
  simp [logCalls, present, attached]

/-- A step leaves every cell alone that it does not call. -/
theorem cell_step_of_ne
    {registry : Registry}
    {number : Nat}
    {cell : Cell}
    (present : registry.cells[number]? = some cell)
    {step : Step}
    (uncalled : step.cell? ≠ some number) :
    (registry.step step).registry.cells[number]? = some cell := by
  have inRange : number < registry.cells.length := (List.getElem?_eq_some_iff.1 present).1
  cases step with
  | openLog capacity => exact present
  | openCell code log => simpa [Registry.step, List.getElem?_append_left inRange] using present
  | onCell other call =>
      have apart : other ≠ number := by simpa [Step.cell?] using uncalled
      cases found : registry.cells[other]? with
      | none => simpa [Registry.step, found] using present
      | some called => simpa [Registry.step, found, apart] using present
  | onLog log call =>
      cases found : registry.logs[log]? with
      | none => simpa [Registry.step, found] using present
      | some used => simpa [Registry.step, found] using present

/-- A step records the change of the word of the only writer, and nothing else. -/
theorem recorded_step
    {registry : Registry}
    {cell number : Nat}
    {word : Word}
    (present : registry.cells[cell]? = some ⟨word, some number⟩)
    {step : Step}
    (sole : TransitionLog.recorded (registry.logCalls number step) ≠ [] →
      step.cell? = some cell) :
    ∃ after,
      (registry.step step).registry.cells[cell]? = some ⟨after, some number⟩ ∧
        TransitionLog.recorded (registry.logCalls number step) =
          (Transition.ofWords? word after).toList := by
  by_cases called : step.cell? = some cell
  · cases step with
    | openLog capacity => contradiction
    | openCell code log => contradiction
    | onCell other call =>
        obtain rfl : other = cell := by simpa [Step.cell?] using called
        refine ⟨(call.effect word).word, cell_step_onCell present call, ?_⟩
        exact recorded_logCalls_onCell present rfl call
    | onLog log call => contradiction
  · have nothing : TransitionLog.recorded (registry.logCalls number step) = [] :=
      Decidable.byContradiction fun something => called (sole something)
    refine ⟨word, cell_step_of_ne present called, ?_⟩
    rw [nothing, Transition.ofWords?_self]
    rfl

/-! ## Scripts -/

/-- A script records the changes of the word of the only writer, and they are a trail. -/
theorem recorded_run
    {registry : Registry}
    {cell number : Nat}
    {word : Word}
    (present : registry.cells[cell]? = some ⟨word, some number⟩)
    {script : List Step}
    (sole : registry.IsSoleWriter cell number script) :
    ∃ last,
      (registry.run script).cells[cell]? = some ⟨last, some number⟩ ∧
        TransitionLog.recorded (registry.logHistory number script) =
            registry.changes cell script ∧
          Transition.IsTrail word (registry.changes cell script) last := by
  induction script generalizing registry word with
  | nil => exact ⟨word, present, rfl, rfl⟩
  | cons step rest inductionHypothesis =>
      obtain ⟨step_sole, rest_sole⟩ := sole
      obtain ⟨after, present_after, recorded_eq⟩ := recorded_step present step_sole
      obtain ⟨last, present_last, rest_recorded_eq, trail⟩ :=
        inductionHypothesis present_after rest_sole
      have change_eq :
          change? cell registry (registry.step step).registry =
            Transition.ofWords? word after := by
        simp [change?, present, present_after]
      refine ⟨last, present_last, ?_, ?_⟩
      · rw [logHistory, TransitionLog.recorded_append, recorded_eq, rest_recorded_eq, changes,
          change_eq]
      · rw [changes, change_eq, Transition.isTrail_append]
        exact ⟨after, Transition.isTrail_ofWords? word after, trail⟩

theorem isNotedAlong_changes (cell : Nat) :
    IsNotedAlong (fun registry step => (registry.step step).registry)
      (fun registry step => (change? cell registry (registry.step step).registry).toList)
      fun registry script => registry.changes cell script where
  nil _ := rfl
  cons _ _ _ := rfl

theorem isEffective_of_mem_change?
    {cell : Nat}
    {before after : Registry}
    {transition : Transition}
    (member : transition ∈ (change? cell before after).toList) : transition.IsEffective := by
  unfold change? at member
  split at member
  · exact Transition.isEffective_of_mem_ofWords? member
  · contradiction

/-- The entries of the log with this number that a script has made it give up, if the log was new
and had this capacity. -/
def evicted
    (registry : Registry)
    (number capacity : Nat)
    (script : List Step) : List Transition :=
  TransitionLog.Removal.evicted
    ((TransitionLog.new capacity).removed (registry.logHistory number script))

/-- A log that was new at the beginning of a script has kept the trail of a cell, whose word went
from `word` to `last`. -/
structure IsTrailKept
    (registry : Registry)
    (cell number capacity : Nat)
    (script : List Step)
    (word last : Word)
    (log : TransitionLog) : Prop where
  /-- The cell holds the last word. -/
  cell_eq : (registry.run script).cells[cell]? = some ⟨last, some number⟩
  /-- This is what has become of the log. -/
  log_eq : (registry.run script).logs[number]? = some log
  /-- What was recorded is what the word went through. -/
  recorded_eq :
    TransitionLog.recorded (registry.logHistory number script) = registry.changes cell script
  /-- What was recorded leads from the first word to the last without a gap. -/
  recorded_trail :
    Transition.IsTrail word (TransitionLog.recorded (registry.logHistory number script)) last
  /-- Nothing was recorded that changes nothing. -/
  recorded_effective : ∀ transition ∈ TransitionLog.recorded (registry.logHistory number script),
    transition.source ≠ transition.target
  /-- The log still has the end of what was recorded. -/
  entries_suffix : log.entries <:+ TransitionLog.recorded (registry.logHistory number script)
  /-- That is a trail by itself, and it ends in the word of the cell. -/
  entries_trail : ∃ oldest, Transition.IsTrail oldest log.entries last
  /-- So the newest entry leads to the word of the cell. -/
  newest_target : ∀ newest, log.entries.getLast? = some newest → newest.target = last
  /-- Every change was delivered, is still in the log, or was given up. -/
  changes_length :
    (registry.changes cell script).length =
      (registry.delivered number script).length + log.length +
        (registry.evicted number capacity script).length
  /-- The counter of the log tells how many were given up, modulo 2^64. -/
  dropped_eq :
    log.dropped.toNat = (registry.evicted number capacity script).length % UInt64.size
  /-- So the log accounts for every change by itself, until its counter starts over. -/
  changes_length_of_lt : (registry.evicted number capacity script).length < UInt64.size →
    (registry.changes cell script).length =
      (registry.delivered number script).length + log.length + log.dropped.toNat

/-- A new log keeps an exact trail of the cell that is its only writer, whatever is done to the
cell, and whatever is popped and drained meanwhile. -/
theorem exists_isTrailKept
    {registry : Registry}
    {cell number capacity : Nat}
    {word : Word}
    {script : List Step}
    (attached : registry.cells[cell]? = some ⟨word, some number⟩)
    (opened : registry.logs[number]? = some (TransitionLog.new capacity))
    (sole : registry.IsSoleWriter cell number script) :
    ∃ last log, registry.IsTrailKept cell number capacity script word last log := by
  obtain ⟨last, cell_eq, recorded_eq, trail⟩ := recorded_run attached sole
  have recorded_trail :
      Transition.IsTrail word (TransitionLog.recorded (registry.logHistory number script))
        last := by
    rw [recorded_eq]
    exact trail
  have parts := TransitionLog.recorded_eq_of_new capacity (registry.logHistory number script)
  have parts_trail := recorded_trail
  rw [parts, Transition.isTrail_append] at parts_trail
  obtain ⟨oldest, -, entries_trail⟩ := parts_trail
  have changes_length :
      (registry.changes cell script).length =
        (registry.delivered number script).length +
          ((TransitionLog.new capacity).run (registry.logHistory number script)).length +
            (registry.evicted number capacity script).length := by
    have removed_length :=
      TransitionLog.Removal.length_evicted_add_length_taken
        ((TransitionLog.new capacity).removed (registry.logHistory number script))
    rw [← recorded_eq, parts, delivered_eq opened, TransitionLog.handedOut_eq_taken,
      List.length_append, List.length_map, ← removed_length]
    unfold evicted TransitionLog.length
    omega
  have dropped_eq :=
    TransitionLog.toNat_dropped_of_new capacity (registry.logHistory number script)
  exact
    ⟨last, (TransitionLog.new capacity).run (registry.logHistory number script),
      { cell_eq := cell_eq
        log_eq := logs_run opened script
        recorded_eq := recorded_eq
        recorded_trail := recorded_trail
        recorded_effective := by
          intro transition member
          rw [recorded_eq] at member
          exact (isNotedAlong_changes cell).of_mem (fun _ _ _ => isEffective_of_mem_change?) member
        entries_suffix := ⟨_, parts.symm⟩
        entries_trail := ⟨oldest, entries_trail⟩
        newest_target := by
          intro newest found
          exact entries_trail.target_getLast found
        changes_length := changes_length
        dropped_eq := dropped_eq
        changes_length_of_lt := by
          intro below
          rw [dropped_eq, changes_length]
          exact congrArg _ (Nat.mod_eq_of_lt below).symm }⟩

/-- Two cells with a log each are used in turn. The log of the second one gives up two entries, has
one popped, and is drained before the last change. -/
theorem exists_isTrailKept_of_opened :
    ∃ last log,
      (empty.run [.openLog 4, .openLog 2, .openCell .ready (some 0),
          .openCell .staged (some 1)]).IsTrailKept 1 1 2
        [.onCell 1 (.promote .ready), .onCell 0 .expire, .onCell 1 (.promote .staged),
          .onCell 1 (.transition .ready .active), .onCell 1 (.insert Code.reserved.word),
          .onCell 1 (.set .expired), .onLog 1 .pop, .onCell 1 (.promote .active),
          .onLog 1 .drain, .onCell 1 .stage]
        Code.staged.word last log :=
  exists_isTrailKept (by decide) (by decide)
    (isSoleWriter_of_isUnshared (isUnshared_openCell (by decide) .staged) (by decide))

end Registry
end ObjectStatus
