import ObjectStatus.Proofs.Runs
import ObjectStatus.TransitionLog

/-!
# Accounting for a transition log

A transition that is recorded in a log leaves it as the oldest entry, and leaves it once: it is
given up for a newer one, taken by itself, or taken with all the others. This module keeps the
account of a log over any sequence of calls: what was recorded is what was removed, in order,
followed by what is still there.
-/

namespace ObjectStatus
namespace TransitionLog

/-- Why an entry left a log. -/
inductive Cause
  /-- A full log gave it up for a newer one. -/
  | evicted
  /-- It was taken by itself. -/
  | popped
  /-- It was taken with all the others. -/
  | drained
  deriving DecidableEq

/-- An entry that left a log. -/
structure Removal where
  /-- Why it left. -/
  cause : Cause
  /-- The entry itself. -/
  entry : Transition
  deriving DecidableEq

namespace Removal

/-- Entries that left for the same cause. -/
def ofEntries (cause : Cause) (entries : List Transition) : List Removal :=
  entries.map (Removal.mk cause)

/-- The entries that were given up. -/
def evicted (removals : List Removal) : List Transition :=
  (removals.filter fun removal => removal.cause = .evicted).map (·.entry)

/-- The entries that were handed out. -/
def taken (removals : List Removal) : List Transition :=
  (removals.filter fun removal => removal.cause ≠ .evicted).map (·.entry)

@[simp] theorem map_entry_ofEntries (cause : Cause) (entries : List Transition) :
    (ofEntries cause entries).map (·.entry) = entries := by
  simp [ofEntries, Function.comp_def]

@[simp] theorem evicted_ofEntries_evicted (entries : List Transition) :
    evicted (ofEntries .evicted entries) = entries := by
  unfold evicted
  rw [List.filter_eq_self.2 (by simp [ofEntries]), map_entry_ofEntries]

@[simp] theorem taken_ofEntries_evicted (entries : List Transition) :
    taken (ofEntries .evicted entries) = [] := by
  simp [taken, ofEntries]

theorem evicted_ofEntries_of_ne
    {cause : Cause}
    (handed : cause ≠ .evicted)
    (entries : List Transition) : evicted (ofEntries cause entries) = [] := by
  simp [evicted, ofEntries, handed]

theorem taken_ofEntries_of_ne
    {cause : Cause}
    (handed : cause ≠ .evicted)
    (entries : List Transition) : taken (ofEntries cause entries) = entries := by
  unfold taken
  rw [List.filter_eq_self.2 (by simp [ofEntries, handed]), map_entry_ofEntries]

@[simp] theorem evicted_append (first second : List Removal) :
    evicted (first ++ second) = evicted first ++ evicted second := by
  simp [evicted]

@[simp] theorem taken_append (first second : List Removal) :
    taken (first ++ second) = taken first ++ taken second := by
  simp [taken]

theorem length_evicted_add_length_taken (removals : List Removal) :
    (evicted removals).length + (taken removals).length = removals.length := by
  induction removals with
  | nil => rfl
  | cons removal rest inductionHypothesis =>
      simp only [evicted, taken, List.length_map, ne_eq, decide_not] at inductionHypothesis ⊢
      by_cases givenUp : removal.cause = .evicted
      · simp only [List.filter_cons, givenUp, decide_true, Bool.not_true, if_true,
          Bool.false_eq_true, if_false, List.length_cons]
        omega
      · simp only [List.filter_cons, givenUp, decide_false, Bool.not_false, if_true,
          Bool.false_eq_true, if_false, List.length_cons]
        omega

theorem taken_sublist (removals : List Removal) :
    (taken removals).Sublist (removals.map (·.entry)) :=
  List.filter_sublist.map _

end Removal

/-- The transition that a call records, if it records one. -/
def Call.recorded : Call → List Transition
  | .record transition => [transition]
  | .pop => []
  | .drain => []

/-- The entries that a call removes, in order of removal. -/
def removals (log : TransitionLog) : Call → List Removal
  | .record transition => Removal.ofEntries .evicted (log.push transition).1.toList
  | .pop => Removal.ofEntries .popped log.pop.1.toList
  | .drain => Removal.ofEntries .drained log.drain.1

/-- The log after a sequence of calls. -/
def run (log : TransitionLog) (calls : List Call) : TransitionLog :=
  calls.foldl (fun log call => (log.call call).2) log

/-- The transitions that a sequence of calls records. -/
def recorded (calls : List Call) : List Transition :=
  calls.flatMap Call.recorded

/-- The entries that a sequence of calls removes, in order of removal. -/
def removed : TransitionLog → List Call → List Removal
  | _, [] => []
  | log, call :: rest => log.removals call ++ (log.call call).2.removed rest

/-- The transitions that the calls of a sequence hand out, one call after another. -/
def handedOut : TransitionLog → List Call → List Transition
  | _, [] => []
  | log, call :: rest => (log.call call).1 ++ (log.call call).2.handedOut rest

@[simp] theorem run_nil (log : TransitionLog) : log.run [] = log := rfl

@[simp] theorem run_cons
    (log : TransitionLog)
    (call : Call)
    (rest : List Call) : log.run (call :: rest) = (log.call call).2.run rest := rfl

@[simp] theorem recorded_nil : recorded [] = [] := rfl

@[simp] theorem recorded_cons
    (call : Call)
    (rest : List Call) : recorded (call :: rest) = call.recorded ++ recorded rest := rfl

@[simp] theorem removed_cons
    (log : TransitionLog)
    (call : Call)
    (rest : List Call) :
    log.removed (call :: rest) = log.removals call ++ (log.call call).2.removed rest := rfl

@[simp] theorem handedOut_cons
    (log : TransitionLog)
    (call : Call)
    (rest : List Call) :
    log.handedOut (call :: rest) = (log.call call).1 ++ (log.call call).2.handedOut rest := rfl

theorem run_append
    (log : TransitionLog)
    (first second : List Call) : log.run (first ++ second) = (log.run first).run second :=
  List.foldl_append

@[simp] theorem recorded_append (first second : List Call) :
    recorded (first ++ second) = recorded first ++ recorded second :=
  List.flatMap_append

@[simp] theorem recorded_map_record (transitions : List Transition) :
    recorded (transitions.map .record) = transitions := by
  induction transitions with
  | nil => rfl
  | cons transition rest inductionHypothesis =>
      rw [List.map_cons, recorded_cons, inductionHypothesis]
      rfl

theorem isNotedAlong_handedOut :
    IsNotedAlong (fun log call => (log.call call).2) (fun log call => (log.call call).1)
      handedOut where
  nil _ := rfl
  cons _ _ _ := rfl

theorem handedOut_append
    (log : TransitionLog)
    (first second : List Call) :
    log.handedOut (first ++ second) =
      log.handedOut first ++ (log.run first).handedOut second :=
  isNotedAlong_handedOut.append log first second

/-! ## One call -/

theorem removals_record_of_isFull
    {log : TransitionLog}
    {oldest : Transition}
    {rest : List Transition}
    (full : log.IsFull)
    (entries_eq : log.entries = oldest :: rest)
    (transition : Transition) :
    log.removals (.record transition) = [⟨.evicted, oldest⟩] := by
  simp [removals, push_of_isFull full entries_eq, Removal.ofEntries]

theorem removals_record_of_not_isFull
    {log : TransitionLog}
    (room : ¬log.IsFull)
    (transition : Transition) : log.removals (.record transition) = [] := by
  simp [removals, push_of_not_isFull room, Removal.ofEntries]

/-- A call removes from the front and records at the back. -/
theorem entries_call (log : TransitionLog) (call : Call) :
    log.entries ++ call.recorded =
      (log.removals call).map (·.entry) ++ (log.call call).2.entries := by
  cases call with
  | record transition =>
      by_cases full : log.IsFull
      · obtain ⟨oldest, rest, entries_eq⟩ := exists_entries_of_isFull full
        simp only [TransitionLog.call, Call.recorded]
        rw [removals_record_of_isFull full entries_eq, record_of_isFull full entries_eq,
          entries_eq]
        rfl
      · simp only [TransitionLog.call, Call.recorded]
        rw [removals_record_of_not_isFull full, record_of_not_isFull full]
        rfl
  | pop =>
      cases entries_eq : log.entries with
      | nil => simp [TransitionLog.call, Call.recorded, removals, pop, entries_eq]
      | cons oldest rest => simp [TransitionLog.call, Call.recorded, removals, pop, entries_eq]
  | drain => simp [TransitionLog.call, Call.recorded, removals]

@[simp] theorem capacity_call (log : TransitionLog) (call : Call) :
    (log.call call).2.capacity = log.capacity := by
  cases call with
  | record transition => exact log.capacity_record transition
  | pop => exact log.capacity_pop
  | drain => simp [TransitionLog.call]

theorem length_call_le
    {log : TransitionLog}
    (fits : log.length ≤ log.capacity)
    (call : Call) : (log.call call).2.length ≤ log.capacity := by
  cases call with
  | record transition =>
      by_cases full : log.IsFull
      · obtain ⟨oldest, rest, entries_eq⟩ := exists_entries_of_isFull full
        have length_eq : log.length = rest.length + 1 := by simp [length, entries_eq]
        simp only [TransitionLog.call, record_of_isFull full entries_eq, length,
          List.length_append, List.length_singleton]
        omega
      · have room : log.length < log.capacity := Nat.lt_of_not_le full
        simp only [TransitionLog.call, record_of_not_isFull full, length, List.length_append,
          List.length_singleton]
        exact room
  | pop =>
      simp only [TransitionLog.call, pop, length, List.length_drop] at fits ⊢
      omega
  | drain => simp [TransitionLog.call, length]

theorem handedOut_call (log : TransitionLog) (call : Call) :
    (log.call call).1 = Removal.taken (log.removals call) := by
  cases call with
  | record transition => simp [TransitionLog.call, removals]
  | pop => simp [TransitionLog.call, removals, Removal.taken_ofEntries_of_ne]
  | drain => simp [TransitionLog.call, removals, Removal.taken_ofEntries_of_ne]

/-- A call counts what it evicts. -/
theorem dropped_call (log : TransitionLog) (call : Call) :
    (log.call call).2.dropped =
      log.dropped + UInt64.ofNat (Removal.evicted (log.removals call)).length := by
  cases call with
  | record transition =>
      by_cases full : log.IsFull
      · obtain ⟨oldest, rest, entries_eq⟩ := exists_entries_of_isFull full
        simp only [TransitionLog.call]
        rw [removals_record_of_isFull full entries_eq, record_of_isFull full entries_eq]
        rfl
      · simp only [TransitionLog.call]
        rw [removals_record_of_not_isFull full, record_of_not_isFull full]
        simp [Removal.evicted]
  | pop => simp [TransitionLog.call, removals, pop, Removal.evicted_ofEntries_of_ne]
  | drain => simp [TransitionLog.call, removals, Removal.evicted_ofEntries_of_ne]

/-! ## A sequence of calls -/

/-- What a log held and what was recorded is what was removed and what it holds now. -/
theorem entries_run (log : TransitionLog) (calls : List Call) :
    log.entries ++ recorded calls =
      (log.removed calls).map (·.entry) ++ (log.run calls).entries := by
  induction calls generalizing log with
  | nil => simp [removed]
  | cons call rest inductionHypothesis =>
      rw [recorded_cons, ← List.append_assoc, entries_call, List.append_assoc,
        inductionHypothesis, removed_cons, List.map_append, List.append_assoc, run_cons]

theorem capacity_run (log : TransitionLog) (calls : List Call) :
    (log.run calls).capacity = log.capacity := by
  induction calls generalizing log with
  | nil => rfl
  | cons call rest inductionHypothesis => rw [run_cons, inductionHypothesis, capacity_call]

theorem length_run_le
    {log : TransitionLog}
    (fits : log.length ≤ log.capacity)
    (calls : List Call) : (log.run calls).length ≤ log.capacity := by
  induction calls generalizing log with
  | nil => exact fits
  | cons call rest inductionHypothesis =>
      have call_fits : (log.call call).2.length ≤ (log.call call).2.capacity := by
        rw [capacity_call]
        exact length_call_le fits call
      have run_fits := inductionHypothesis call_fits
      rwa [capacity_call] at run_fits

/-- A sequence of calls hands out what it removes, except for what it evicts. -/
theorem handedOut_eq_taken (log : TransitionLog) (calls : List Call) :
    log.handedOut calls = Removal.taken (log.removed calls) := by
  induction calls generalizing log with
  | nil => rfl
  | cons call rest inductionHypothesis =>
      rw [handedOut_cons, removed_cons, Removal.taken_append, handedOut_call,
        inductionHypothesis]

/-- A sequence of calls counts what it evicts. -/
theorem dropped_run (log : TransitionLog) (calls : List Call) :
    (log.run calls).dropped =
      log.dropped + UInt64.ofNat (Removal.evicted (log.removed calls)).length := by
  induction calls generalizing log with
  | nil => simp [removed, Removal.evicted]
  | cons call rest inductionHypothesis =>
      rw [run_cons, inductionHypothesis, dropped_call, removed_cons, Removal.evicted_append,
        List.length_append, UInt64.ofNat_add, UInt64.add_assoc]

/-- What was recorded in a log since it was new is what was removed and what it holds now. -/
theorem recorded_eq_of_new (capacity : Nat) (calls : List Call) :
    recorded calls =
      ((new capacity).removed calls).map (·.entry) ++ ((new capacity).run calls).entries := by
  rw [← entries_run, entries_new, List.nil_append]

/-- The counter of a log that was new tells how many entries were evicted, modulo 2^64. -/
theorem toNat_dropped_of_new (capacity : Nat) (calls : List Call) :
    ((new capacity).run calls).dropped.toNat =
      (Removal.evicted ((new capacity).removed calls)).length % UInt64.size := by
  rw [dropped_run, dropped_new, UInt64.zero_add, UInt64.toNat_ofNat']

/-- The account of a log after calls that began with a new one. -/
structure IsAccounted
    (capacity : Nat)
    (calls : List Call)
    (log : TransitionLog) : Prop where
  /-- The capacity is the one that was asked for, or one. -/
  capacity_eq : log.capacity = max capacity 1
  /-- The log has no more entries than it may. -/
  length_le : log.length ≤ log.capacity
  /-- What was recorded was removed, oldest first, or is still there. -/
  recorded_eq :
    recorded calls = ((new capacity).removed calls).map (·.entry) ++ log.entries
  /-- To record in a full log evicts its oldest entry and nothing else. -/
  evicts_oldest : ∀ transition, log.length = log.capacity →
    ∃ oldest rest, log.entries = oldest :: rest ∧
      log.removals (.record transition) = [⟨.evicted, oldest⟩] ∧
      (log.record transition).entries = rest ++ [transition]
  /-- To record in a log with room left evicts nothing. -/
  evicts_nothing : ∀ transition, log.length < log.capacity →
    log.removals (.record transition) = [] ∧
      (log.record transition).entries = log.entries ++ [transition]
  /-- What was handed out is what was removed by pops and drains. -/
  handedOut_eq :
    (new capacity).handedOut calls = Removal.taken ((new capacity).removed calls)
  /-- What was handed out was recorded, in this order. -/
  handedOut_sublist : ((new capacity).handedOut calls).Sublist (recorded calls)
  /-- The evictions are counted, and the count starts over after 2^64 of them. -/
  dropped_eq :
    log.dropped.toNat =
      (Removal.evicted ((new capacity).removed calls)).length % UInt64.size
  /-- To drain the log hands out all of its entries and leaves none. -/
  drain_all : log.drain.1 = log.entries ∧ log.drain.2.entries = []
  /-- To drain the log evicts nothing. -/
  drain_dropped : log.drain.2.dropped = log.dropped

/-- The account of a log is right at every moment, whatever is recorded, popped and drained. -/
theorem isAccounted_run (capacity : Nat) (calls : List Call) :
    IsAccounted capacity calls ((new capacity).run calls) := by
  exact
    { capacity_eq := by rw [capacity_run, capacity_new]
      length_le := by
        rw [capacity_run]
        exact length_run_le (by simp [length]) calls
      recorded_eq := recorded_eq_of_new capacity calls
      evicts_oldest := by
        intro transition atCapacity
        have full : ((new capacity).run calls).IsFull := Nat.le_of_eq atCapacity.symm
        obtain ⟨oldest, rest, entries_eq⟩ := exists_entries_of_isFull full
        refine ⟨oldest, rest, entries_eq, removals_record_of_isFull full entries_eq _, ?_⟩
        rw [record_of_isFull full entries_eq]
      evicts_nothing := by
        intro transition belowCapacity
        have room : ¬((new capacity).run calls).IsFull := Nat.not_le_of_lt belowCapacity
        refine ⟨removals_record_of_not_isFull room transition, ?_⟩
        rw [record_of_not_isFull room]
      handedOut_eq := handedOut_eq_taken (new capacity) calls
      handedOut_sublist := by
        rw [handedOut_eq_taken, recorded_eq_of_new capacity calls]
        exact (Removal.taken_sublist _).trans (List.sublist_append_left _ _)
      dropped_eq := toNat_dropped_of_new capacity calls
      drain_all := by simp
      drain_dropped := by simp }

end TransitionLog
end ObjectStatus
