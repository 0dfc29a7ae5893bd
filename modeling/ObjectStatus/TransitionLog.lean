import ObjectStatus.Transition

/-!
# Transition logs

A transition log keeps the latest transitions, first in, first out, and never more than its
capacity. A full log makes room for a new entry by giving up its oldest one, and counts how many it
has given up; the count starts over after 2^64 of them.
-/

namespace ObjectStatus

/-- A bounded queue of transitions. -/
structure TransitionLog where
  /-- The greatest number of entries. -/
  capacity : Nat
  /-- The entries, oldest first. -/
  entries : List Transition
  /-- How many entries were given up for want of room. -/
  dropped : UInt64
  /-- There is always room for the newest entry. -/
  capacity_pos : 0 < capacity
  deriving DecidableEq

namespace TransitionLog

/-- An empty log of this capacity; one that could hold nothing holds one entry instead. -/
def new (capacity : Nat) : TransitionLog where
  capacity := max capacity 1
  entries := []
  dropped := 0
  capacity_pos := by omega

/-- The number of entries. -/
def length (log : TransitionLog) : Nat :=
  log.entries.length

/-- The log has no entries. -/
def isEmpty (log : TransitionLog) : Bool :=
  log.entries.isEmpty

/-- The log has as many entries as it can hold. -/
def IsFull (log : TransitionLog) : Prop :=
  log.capacity ≤ log.length

instance (log : TransitionLog) : Decidable log.IsFull :=
  inferInstanceAs (Decidable (_ ≤ _))

/-- Append a transition to the queue. A full queue hands back its oldest entry for it. -/
def push
    (log : TransitionLog)
    (transition : Transition) : Option Transition × TransitionLog :=
  if log.IsFull then
    (log.entries.head?, { log with entries := log.entries.drop 1 ++ [transition] })
  else
    (none, { log with entries := log.entries ++ [transition] })

/-- The log after a transition is recorded. An entry that the queue hands back is given up and
counted. -/
def record
    (log : TransitionLog)
    (transition : Transition) : TransitionLog :=
  match log.push transition with
  | (some _, pushed) => { pushed with dropped := pushed.dropped + 1 }
  | (none, pushed) => pushed

/-- The oldest entry and the log without it. -/
def pop (log : TransitionLog) : Option Transition × TransitionLog :=
  (log.entries.head?, { log with entries := log.entries.drop 1 })

theorem length_pop_lt
    {log rest : TransitionLog}
    {oldest : Transition}
    (popped : log.pop = (some oldest, rest)) :
    rest.length < log.length := by
  unfold pop at popped
  cases entries : log.entries with
  | nil => simp [entries] at popped
  | cons first others =>
      obtain ⟨-, rfl⟩ := Prod.mk.inj popped
      simp [length, entries]

/-- The entries that are taken one by one, oldest first, until there are none, and the log that is
left. -/
def drain (log : TransitionLog) : List Transition × TransitionLog :=
  match _popped : log.pop with
  | (none, rest) => ([], rest)
  | (some oldest, rest) => (oldest :: rest.drain.1, rest.drain.2)
termination_by log.length
decreasing_by all_goals exact length_pop_lt _popped

/-- The numbers of a log as a record. -/
def debugRecord (log : TransitionLog) : Text.Record :=
  ⟨"TransitionLog",
    [("len", String.ofList (Numeral.decimal log.length)),
      ("capacity", String.ofList (Numeral.decimal log.capacity)),
      ("dropped", String.ofList (Numeral.decimal log.dropped.toNat))]⟩

@[simp] theorem capacity_new (capacity : Nat) : (new capacity).capacity = max capacity 1 := rfl

@[simp] theorem entries_new (capacity : Nat) : (new capacity).entries = [] := rfl

@[simp] theorem dropped_new (capacity : Nat) : (new capacity).dropped = 0 := rfl

theorem push_of_isFull
    {log : TransitionLog}
    {oldest : Transition}
    {rest : List Transition}
    (full : log.IsFull)
    (entries_eq : log.entries = oldest :: rest)
    (transition : Transition) :
    log.push transition = (some oldest, { log with entries := rest ++ [transition] }) := by
  simp [push, full, entries_eq]

theorem push_of_not_isFull
    {log : TransitionLog}
    (room : ¬log.IsFull)
    (transition : Transition) :
    log.push transition = (none, { log with entries := log.entries ++ [transition] }) := by
  simp [push, room]

theorem exists_entries_of_isFull
    {log : TransitionLog}
    (full : log.IsFull) :
    ∃ oldest rest, log.entries = oldest :: rest := by
  have capacity_pos := log.capacity_pos
  unfold IsFull length at full
  exact List.exists_cons_of_length_pos (by omega)

/-- Draining takes every entry. -/
@[simp] theorem drain_eq (log : TransitionLog) :
    log.drain = (log.entries, { log with entries := [] }) := by
  obtain ⟨capacity, entries, dropped, capacity_pos⟩ := log
  induction entries with
  | nil =>
      rw [drain]
      rfl
  | cons oldest rest inductionHypothesis =>
      rw [drain]
      simp [pop, inductionHypothesis]

/-- A full log gives up its oldest entry and counts it. -/
theorem record_of_isFull
    {log : TransitionLog}
    {oldest : Transition}
    {rest : List Transition}
    (full : log.IsFull)
    (entries_eq : log.entries = oldest :: rest)
    (transition : Transition) :
    log.record transition =
      { log with entries := rest ++ [transition], dropped := log.dropped + 1 } := by
  simp [record, push_of_isFull full entries_eq]

/-- A log with room left gives nothing up. -/
theorem record_of_not_isFull
    {log : TransitionLog}
    (room : ¬log.IsFull)
    (transition : Transition) :
    log.record transition = { log with entries := log.entries ++ [transition] } := by
  simp [record, push_of_not_isFull room]

@[simp] theorem capacity_record
    (log : TransitionLog)
    (transition : Transition) : (log.record transition).capacity = log.capacity := by
  by_cases full : log.IsFull
  · obtain ⟨oldest, rest, entries_eq⟩ := exists_entries_of_isFull full
    rw [record_of_isFull full entries_eq]
  · rw [record_of_not_isFull full]

@[simp] theorem capacity_pop (log : TransitionLog) : log.pop.2.capacity = log.capacity := rfl

/-- One use of a log. -/
inductive Call
  | record (transition : Transition)
  | pop
  | drain
  deriving DecidableEq

/-- The log after a call, and the entries that the call hands out. -/
def call (log : TransitionLog) : Call → List Transition × TransitionLog
  | .record transition => ([], log.record transition)
  | .pop => (log.pop.1.toList, log.pop.2)
  | .drain => log.drain

end TransitionLog
end ObjectStatus
