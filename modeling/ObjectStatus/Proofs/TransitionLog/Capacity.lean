import ObjectStatus.Proofs.TransitionLog.Accounting

/-!
# Logs of different capacities

The same calls on two logs, new at the beginning, that differ in their capacities only. What a log
holds is the newest part of what was recorded, so the two logs differ in how much of it they hold
and in nothing else; and the log with the greater capacity never holds less. From the lengths of the
two it follows what they hand out, and from that, since nothing is lost, what they have evicted.
-/

namespace ObjectStatus
namespace TransitionLog

/-! ## One call -/

/-- The first log may hold no more entries than the second one, and holds no more. -/
structure IsTighter (tighter wider : TransitionLog) : Prop where
  capacity_le : tighter.capacity ≤ wider.capacity
  length_le : tighter.length ≤ wider.length

theorem isTighter_new
    {smaller larger : Nat}
    (order : smaller ≤ larger) : IsTighter (new smaller) (new larger) where
  capacity_le := by
    simp only [capacity_new]
    omega
  length_le := Nat.le_refl 0

/-- A full log stays as long as it is when a transition is recorded, and any other log grows. -/
theorem length_record (log : TransitionLog) (transition : Transition) :
    (log.record transition).length = if log.IsFull then log.length else log.length + 1 := by
  by_cases full : log.IsFull
  · obtain ⟨oldest, rest, entries_eq⟩ := exists_entries_of_isFull full
    rw [if_pos full, record_of_isFull full entries_eq]
    simp [length, entries_eq]
  · rw [if_neg full, record_of_not_isFull full]
    simp [length]

theorem length_pop (log : TransitionLog) : log.pop.2.length = log.length - 1 := by
  simp [pop, length]

theorem length_handedOut_pop (log : TransitionLog) :
    log.pop.1.toList.length = min log.length 1 := by
  cases entries_eq : log.entries with
  | nil => simp [pop, length, entries_eq]
  | cons oldest rest => simp [pop, length, entries_eq]

/-- A call leaves the tighter log the tighter one. -/
theorem IsTighter.call
    {tighter wider : TransitionLog}
    (isTighter : IsTighter tighter wider)
    (call : Call) : IsTighter (tighter.call call).2 (wider.call call).2 where
  capacity_le := by
    rw [capacity_call, capacity_call]
    exact isTighter.capacity_le
  length_le := by
    obtain ⟨capacity_le, length_le⟩ := isTighter
    cases call with
    | record transition =>
        simp only [TransitionLog.call, length_record]
        by_cases tighter_full : tighter.IsFull
        · rw [if_pos tighter_full]
          split <;> omega
        · rw [if_neg tighter_full]
          unfold IsFull at tighter_full
          by_cases wider_full : wider.IsFull
          · -- The wider log holds as many as the tighter one can, so it need not grow.
            rw [if_pos wider_full]
            unfold IsFull at wider_full
            omega
          · rw [if_neg wider_full]
            omega
    | pop =>
        simp only [TransitionLog.call, length_pop]
        omega
    | drain => simp [TransitionLog.call, length]

/-- The tighter log hands out no more in a call than the wider one. -/
theorem IsTighter.length_handedOut_call_le
    {tighter wider : TransitionLog}
    (isTighter : IsTighter tighter wider)
    (call : Call) : (tighter.call call).1.length ≤ (wider.call call).1.length := by
  have length_le := isTighter.length_le
  cases call with
  | record transition => exact Nat.le_refl 0
  | pop =>
      simp only [TransitionLog.call, length_handedOut_pop]
      omega
  | drain =>
      simp only [TransitionLog.call, drain_eq]
      exact length_le

/-! ## A sequence of calls -/

theorem IsTighter.run
    {tighter wider : TransitionLog}
    (isTighter : IsTighter tighter wider)
    (calls : List Call) : IsTighter (tighter.run calls) (wider.run calls) := by
  induction calls generalizing tighter wider with
  | nil => exact isTighter
  | cons call rest inductionHypothesis => exact inductionHypothesis (isTighter.call call)

theorem IsTighter.length_handedOut_le
    {tighter wider : TransitionLog}
    (isTighter : IsTighter tighter wider)
    (calls : List Call) :
    (tighter.handedOut calls).length ≤ (wider.handedOut calls).length := by
  induction calls generalizing tighter wider with
  | nil => exact Nat.le_refl 0
  | cons call rest inductionHypothesis =>
      have call_le := isTighter.length_handedOut_call_le call
      have rest_le := inductionHypothesis (isTighter.call call)
      rw [handedOut_cons, handedOut_cons, List.length_append, List.length_append]
      omega

/-- A log that was new holds the newest part of what was recorded. -/
theorem entries_suffix_recorded (capacity : Nat) (calls : List Call) :
    ((new capacity).run calls).entries <:+ recorded calls := by
  rw [recorded_eq_of_new capacity calls]
  exact List.suffix_append _ _

/-- A log that was new has handed out, evicted or kept each transition that was recorded. -/
theorem length_recorded_of_new (capacity : Nat) (calls : List Call) :
    (recorded calls).length =
      ((new capacity).handedOut calls).length +
        (Removal.evicted ((new capacity).removed calls)).length +
        ((new capacity).run calls).length := by
  have recorded_length := congrArg List.length (recorded_eq_of_new capacity calls)
  have removed_length := Removal.length_evicted_add_length_taken ((new capacity).removed calls)
  rw [List.length_append, List.length_map] at recorded_length
  rw [handedOut_eq_taken, length]
  omega

/-- What the same calls leave a new log of the smaller capacity, compared with what they leave one
of the larger capacity. -/
structure IsSurpassed
    (smaller larger : Nat)
    (calls : List Call) : Prop where
  /-- It holds the newest part of what the other one holds. -/
  entries_suffix : ((new smaller).run calls).entries <:+ ((new larger).run calls).entries
  /-- It has handed out no more entries. -/
  length_handedOut_le :
    ((new smaller).handedOut calls).length ≤ ((new larger).handedOut calls).length
  /-- When both are drained now, it hands out the newest part of what the other one hands out. -/
  drain_suffix : ((new smaller).run calls).drain.1 <:+ ((new larger).run calls).drain.1
  /-- It has evicted no fewer entries. -/
  length_evicted_le :
    (Removal.evicted ((new larger).removed calls)).length ≤
      (Removal.evicted ((new smaller).removed calls)).length
  /-- Its counter says so, as long as it has not started over. -/
  dropped_le :
    (Removal.evicted ((new smaller).removed calls)).length < UInt64.size →
    ((new larger).run calls).dropped ≤ ((new smaller).run calls).dropped

/-- A log is surpassed by every log that may hold more, after any sequence of calls. -/
theorem isSurpassed_of_le
    {smaller larger : Nat}
    (order : smaller ≤ larger)
    (calls : List Call) : IsSurpassed smaller larger calls := by
  have isTighter := (isTighter_new order).run calls
  have entries_suffix : ((new smaller).run calls).entries <:+ ((new larger).run calls).entries :=
    List.suffix_of_suffix_length_le (entries_suffix_recorded smaller calls)
      (entries_suffix_recorded larger calls) isTighter.length_le
  have handedOut_le := (isTighter_new order).length_handedOut_le calls
  have evicted_le :
      (Removal.evicted ((new larger).removed calls)).length ≤
        (Removal.evicted ((new smaller).removed calls)).length := by
    have smaller_total := length_recorded_of_new smaller calls
    have larger_total := length_recorded_of_new larger calls
    have kept_le := isTighter.length_le
    omega
  exact
    { entries_suffix := entries_suffix
      length_handedOut_le := handedOut_le
      drain_suffix := by simpa using entries_suffix
      length_evicted_le := evicted_le
      dropped_le := by
        intro fits
        rw [UInt64.le_iff_toNat_le, toNat_dropped_of_new, toNat_dropped_of_new,
          Nat.mod_eq_of_lt fits, Nat.mod_eq_of_lt (Nat.lt_of_le_of_lt evicted_le fits)]
        exact evicted_le }

/-- A log for one entry and a log for two, with a pop between the records. The smaller one evicts the
first and the third transition, and hands out the second, which the larger one evicts. -/
theorem isSurpassed_of_one_of_two :
    1 ≤ 2 ∧
    IsSurpassed 1 2
      [.record ⟨⟨0⟩, ⟨1⟩⟩, .record ⟨⟨1⟩, ⟨2⟩⟩, .pop, .record ⟨⟨2⟩, ⟨3⟩⟩, .record ⟨⟨3⟩, ⟨4⟩⟩,
        .drain] :=
  ⟨by decide, isSurpassed_of_le (by decide) _⟩

end TransitionLog
end ObjectStatus
