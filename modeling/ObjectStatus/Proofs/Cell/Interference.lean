import Mathlib.Data.Finset.Card
import Mathlib.Tactic.Choose
import ObjectStatus.Proofs.Cell.Completion
import ObjectStatus.Proofs.Cell.Execution

/-!
# Promotions and interference

Nothing in a promotion counts how often it tries again. What bounds it is what the other threads
do: an exchange is lost only if the word is another one than the promotion has read, so some other
thread has changed it since. These changes are different ones for different exchanges, since the
promotion reads the word again whenever it loses. So a promotion loses no more exchanges than there
are changes of the word by others while it is under way, and apart from them it takes three turns.

If the others only add bits in the meantime, the words that the promotion reads grow from one to the
next. There is no room to grow more than eight times, so it returns within eleven turns of its
thread, however many the others are and however often they call.
-/

namespace ObjectStatus
namespace Cell

/-! ## Turns that no interference accounts for -/

namespace Thread

/-- The turns that are left of the call that the thread is making, if it loses no exchange any
more: one to begin, one to exchange and one to hand over. -/
def turnsUndisturbed (thread : Thread) : Nat :=
  match thread.pending with
  | none => 3
  | some (.exchange _ _) => 2
  | some (.record _ _) => 1

theorem turnsUndisturbed_pos (thread : Thread) : 0 < thread.turnsUndisturbed := by
  unfold turnsUndisturbed
  split <;> decide

theorem turnsUndisturbed_le (thread : Thread) : thread.turnsUndisturbed ≤ 3 := by
  unfold turnsUndisturbed
  split <;> decide

/-- A thread that has not yet to hand over a change has at least the turn for it and one more. -/
theorem two_le_turnsUndisturbed
    {thread : Thread}
    (unrecorded : ∀ change answer, thread.pending ≠ some (.record change answer)) :
    2 ≤ thread.turnsUndisturbed := by
  unfold turnsUndisturbed
  split
  · decide
  · decide
  · rename_i change answer recorded
    exact absurd recorded (unrecorded change answer)

end Thread

/-- A turn of a call that does not return in it uses one of these turns, or loses an exchange. -/
theorem Takes.turnsUndisturbed_lt
    {shared : Shared}
    {before after : Thread}
    (takes : Takes shared before after)
    (unanswered : after.answers.length = before.answers.length) :
    after.turnsUndisturbed <
      before.turnsUndisturbed + if before.losesExchange shared.word then 1 else 0 := by
  cases takes with
  | returns answer pending_eq answers_eq => simp [answers_eq] at unanswered
  | owes change answer unrecorded pending_eq answers_eq =>
      have two_le := Thread.two_le_turnsUndisturbed unrecorded
      have after_eq : after.turnsUndisturbed = 1 := by rw [Thread.turnsUndisturbed, pending_eq]
      omega
  | reads target readsWord shared_eq pending_eq answers_eq =>
      have after_eq : after.turnsUndisturbed = 2 := by rw [Thread.turnsUndisturbed, pending_eq]
      cases begun : before.pending with
      | none =>
          have before_eq : before.turnsUndisturbed = 3 := by rw [Thread.turnsUndisturbed, begun]
          omega
      | some pending =>
          have loses := Thread.losesExchange_of_readsWord readsWord (by rw [begun]; rfl)
          obtain ⟨earlier, seen, exchange_pending, -⟩ := Thread.losesExchange_iff.1 loses
          have before_eq : before.turnsUndisturbed = 2 := by
            rw [Thread.turnsUndisturbed, exchange_pending]
          rw [if_pos loses]
          omega

namespace Execution

variable {execution : Execution} {number index time : Nat}

/-- The turns of the call that are of this kind, which is a matter of the thread and the word. -/
def ownTurns
    (execution : Execution)
    (number index : Nat)
    (kind : Thread → Word → Bool) : Finset Nat :=
  (Finset.range execution.schedule.length).filter fun time =>
    execution.IsOwnTurn number index time ∧
      kind (execution.threadAt number time) (execution.wordAt time) = true

/-- The turns in which the call loses an exchange. -/
def lost (execution : Execution) (number index : Nat) : Finset Nat :=
  execution.ownTurns number index Thread.losesExchange

/-- The turns in which the call, a promotion, reads the word: its first one, and those in which it
loses an exchange. -/
def reads (execution : Execution) (number index : Nat) : Finset Nat :=
  execution.ownTurns number index Thread.readsWord

/-- The turns of other threads that change the word while the call is under way. -/
def interference (execution : Execution) (number index : Nat) : Finset Nat :=
  (Finset.range execution.schedule.length).filter fun time =>
    execution.schedule[time]? ≠ some number ∧
      execution.IsUnderWay number index time ∧
      execution.wordAt (time + 1) ≠ execution.wordAt time

theorem mem_ownTurns
    {kind : Thread → Word → Bool} :
    time ∈ execution.ownTurns number index kind ↔
      execution.IsOwnTurn number index time ∧
        kind (execution.threadAt number time) (execution.wordAt time) = true := by
  unfold ownTurns
  rw [Finset.mem_filter, Finset.mem_range]
  exact and_iff_right_of_imp fun member => (List.getElem?_eq_some_iff.1 member.1.1).1

theorem mem_lost :
    time ∈ execution.lost number index ↔
      execution.IsOwnTurn number index time ∧
        (execution.threadAt number time).losesExchange (execution.wordAt time) = true :=
  mem_ownTurns

theorem mem_reads :
    time ∈ execution.reads number index ↔
      execution.IsOwnTurn number index time ∧
        (execution.threadAt number time).readsWord (execution.wordAt time) = true :=
  mem_ownTurns

theorem mem_interference :
    time ∈ execution.interference number index ↔
      execution.schedule[time]? ≠ some number ∧
        execution.IsUnderWay number index time ∧
        execution.wordAt (time + 1) ≠ execution.wordAt time := by
  unfold interference
  rw [Finset.mem_filter, Finset.mem_range]
  refine and_iff_right_of_imp fun member => ?_
  obtain ⟨other, -, present, -⟩ := exists_call_of_change member.2.2
  exact (List.getElem?_eq_some_iff.1 present).1

theorem mem_reads_of_mem_lost
    (member : time ∈ execution.lost number index) : time ∈ execution.reads number index := by
  obtain ⟨own, loses⟩ := mem_lost.1 member
  exact mem_reads.2 ⟨own, Thread.readsWord_of_losesExchange loses⟩

/-! ## Charges -/

/-- A turn that leaves a thread with an exchange to make has read the word that the exchange
expects. -/
theorem mem_reads_of_exchange
    {target : Code}
    {seen : Word}
    (own : execution.schedule[time]? = some number)
    (pending_eq : (execution.threadAt number (time + 1)).pending = some (.exchange target seen))
    (unanswered : (execution.threadAt number (time + 1)).answers.length = index) :
    time ∈ execution.reads number index ∧
      execution.wordAt time = seen ∧ execution.wordAt (time + 1) = seen := by
  have busy : (execution.threadAt number time).isDone = false := by
    rw [Bool.eq_false_iff]
    intro done
    rw [threadAt_succ_self own, Thread.eq_of_isDone done] at pending_eq
    contradiction
  have takes := takes_turn (execution.systemAt time).shared busy
  have word_eq := wordAt_succ own
  rw [← threadAt_succ_self own] at takes
  cases takes with
  | returns answer none_pending _ =>
      rw [none_pending] at pending_eq
      contradiction
  | owes change answer _ record_pending _ =>
      rw [record_pending] at pending_eq
      simp at pending_eq
  | reads other readsWord shared_eq exchange_pending answers_eq =>
      rw [exchange_pending] at pending_eq
      have seen_eq : execution.wordAt time = seen :=
        (Pending.exchange.inj (Option.some.inj pending_eq)).2
      rw [shared_eq] at word_eq
      rw [answers_eq] at unanswered
      exact ⟨mem_reads.2 ⟨⟨own, unanswered⟩, readsWord⟩, seen_eq, word_eq.trans seen_eq⟩

/-- What an exchange expects was read in the last turn of the promotion. -/
theorem exists_read
    {target : Code}
    {seen : Word}
    (pending_eq : (execution.threadAt number time).pending = some (.exchange target seen))
    (unanswered : (execution.threadAt number time).answers.length = index) :
    ∃ read ∈ execution.reads number index, read < time ∧
      execution.IsIdleBetween number read time ∧
      execution.wordAt read = seen ∧ execution.wordAt (read + 1) = seen := by
  induction time with
  | zero =>
      have start_eq : execution.threadAt number 0 = .new (execution.programs.getD number []) :=
        System.thread_start _ _ _
      rw [start_eq] at pending_eq
      contradiction
  | succ time inductionHypothesis =>
      by_cases own : execution.schedule[time]? = some number
      · obtain ⟨member, seen_eq, kept⟩ := mem_reads_of_exchange own pending_eq unanswered
        refine ⟨time, member, Nat.lt_succ_self time, ?_, seen_eq, kept⟩
        intro between after before
        exact absurd (Nat.le_of_lt_succ before) (Nat.not_le_of_lt after)
      · rw [threadAt_succ_of_ne own] at pending_eq unanswered
        obtain ⟨read, member, earlier, idle, seen_eq, kept⟩ :=
          inductionHypothesis pending_eq unanswered
        refine ⟨read, member, Nat.lt_succ_of_lt earlier, ?_, seen_eq, kept⟩
        intro between after before
        rcases Nat.lt_succ_iff_lt_or_eq.1 before with still | rfl
        · exact idle between after still
        · exact own

/-- The exchange lost in one turn of a promotion is charged to the change made in another turn. -/
structure IsChargedTo
    (execution : Execution)
    (number index lost change : Nat) : Prop where
  /-- The word is changed while the promotion is under way. -/
  change_mem : change ∈ execution.interference number index
  /-- It is changed by a call of another thread, which does what it does by itself. -/
  exists_call : ∃ other call, other ≠ number ∧
    execution.schedule[change]? = some other ∧
    execution.currentAt? other change = some call ∧
    execution.wordAt (change + 1) = (call.effect (execution.wordAt change)).word
  /-- It is made before the exchange is lost. -/
  change_lt : change < lost
  /-- It is made after the promotion has read the word for the last time before, and the promotion
  has had no turn since. -/
  exists_read : ∃ read ∈ execution.reads number index,
    read < change ∧ execution.IsIdleBetween number read lost

/-- An exchange is lost to a change that another thread has made. -/
theorem exists_isChargedTo
    (member : time ∈ execution.lost number index) :
    ∃ change, execution.IsChargedTo number index time change := by
  obtain ⟨own, loses⟩ := mem_lost.1 member
  obtain ⟨target, seen, pending_eq, differs⟩ := Thread.losesExchange_iff.1 loses
  obtain ⟨read, read_mem, earlier, idle, -, kept⟩ := exists_read pending_eq own.2
  rw [← kept] at differs
  obtain ⟨change, after, before, changed⟩ := exists_change (Nat.succ_le_of_lt earlier) differs
  have stands : execution.threadAt number time = execution.threadAt number change :=
    (idle.threadAt_eq earlier (Nat.le_refl time)).trans (idle.threadAt_eq after before.le).symm
  have underWay : execution.IsUnderWay number index change := by
    unfold IsUnderWay
    rw [← stands, pending_eq]
    exact ⟨own.2, rfl⟩
  have not_own := idle change after before
  obtain ⟨other, call, present, current, effect_eq⟩ := exists_call_of_change changed
  have other_ne : other ≠ number := fun same => not_own (by rw [present, same])
  exact
    ⟨change,
      { change_mem := mem_interference.2 ⟨not_own, underWay, changed⟩
        exists_call := ⟨other, call, other_ne, present, current, effect_eq⟩
        change_lt := before
        exists_read := ⟨read, read_mem, after, idle⟩ }⟩

/-- Exchanges that are lost one after the other are charged to changes that are made one after the
other. -/
theorem IsChargedTo.lt
    {first second earlier later : Nat}
    (charged : execution.IsChargedTo number index first earlier)
    (own : execution.IsOwnTurn number index first)
    (charged_later : execution.IsChargedTo number index second later)
    (ordered : first < second) : earlier < later := by
  obtain ⟨read, -, after, idle⟩ := charged_later.exists_read
  calc
    earlier < first := charged.change_lt
    _ ≤ read := own.le_of_isIdleBetween idle ordered
    _ < later := after

/-- The lost exchanges can be charged to changes, in order and each to one of its own. -/
theorem exists_charge (execution : Execution) (number index : Nat) :
    ∃ charge : Nat → Nat,
      StrictMonoOn charge (execution.lost number index) ∧
        ∀ time ∈ execution.lost number index,
          execution.IsChargedTo number index time (charge time) := by
  have charged (time : Nat) : ∃ change, time ∈ execution.lost number index →
      execution.IsChargedTo number index time change := by
    by_cases member : time ∈ execution.lost number index
    · obtain ⟨change, isChargedTo⟩ := exists_isChargedTo member
      exact ⟨change, fun _ => isChargedTo⟩
    · exact ⟨0, fun present => absurd present member⟩
  choose charge isChargedTo using charged
  refine ⟨charge, ?_, isChargedTo⟩
  intro first first_mem second second_mem ordered
  exact (isChargedTo first first_mem).lt (mem_lost.1 first_mem).1 (isChargedTo second second_mem)
    ordered

/-- No more exchanges are lost than there are changes to charge them to. -/
theorem card_lost_le (execution : Execution) (number index : Nat) :
    (execution.lost number index).card ≤ (execution.interference number index).card := by
  obtain ⟨charge, increasing, charged⟩ := execution.exists_charge number index
  exact Finset.card_le_card_of_injOn charge
    (fun time member => (charged time member).change_mem) increasing.injOn

/-! ## Exchanges that are lost from a moment on -/

/-- The turns from this one on in which the call loses an exchange. -/
def lostSince (execution : Execution) (number index first : Nat) : Finset Nat :=
  (execution.lost number index).filter fun time => first ≤ time

theorem card_lostSince_le (execution : Execution) (number index first : Nat) :
    (execution.lostSince number index first).card ≤ (execution.lost number index).card :=
  Finset.card_filter_le _ _

/-- A turn is one of the lost ones from then on, or all of those come later. -/
theorem card_lostSince (execution : Execution) (number index first : Nat) :
    (execution.lostSince number index first).card =
      (execution.lostSince number index (first + 1)).card +
        if first ∈ execution.lost number index then 1 else 0 := by
  have notMem : first ∉ execution.lostSince number index (first + 1) := by
    simp [lostSince]
  by_cases member : first ∈ execution.lost number index
  · have since_eq : execution.lostSince number index first =
        insert first (execution.lostSince number index (first + 1)) := by
      ext time
      simp only [lostSince, Finset.mem_insert, Finset.mem_filter]
      constructor
      · rintro ⟨time_mem, later⟩
        rcases Nat.eq_or_lt_of_le later with same | later
        · exact Or.inl same.symm
        · exact Or.inr ⟨time_mem, later⟩
      · rintro (rfl | ⟨time_mem, later⟩)
        · exact ⟨member, Nat.le_refl _⟩
        · exact ⟨time_mem, Nat.le_of_succ_le later⟩
    rw [since_eq, Finset.card_insert_of_notMem notMem, if_pos member]
  · have since_eq : execution.lostSince number index first =
        execution.lostSince number index (first + 1) := by
      ext time
      simp only [lostSince, Finset.mem_filter]
      refine and_congr_right fun time_mem => ?_
      have differs : first ≠ time := by
        rintro rfl
        exact member time_mem
      omega
    rw [since_eq, if_neg member]
    exact (Nat.add_zero _).symm

/-- A call returns when its thread has the turns that are left of it, and one more for each exchange
that it is going to lose. -/
theorem returns_of_count
    {call : Call}
    (present : (execution.programs.getD number [])[index]? = some call)
    {first : Nat}
    (current : (execution.threadAt number first).answers.length = index)
    (enough : (execution.threadAt number first).turnsUndisturbed +
      (execution.lostSince number index first).card ≤
        (execution.schedule.drop first).count number) :
    index < (execution.threadAt number execution.schedule.length).answers.length := by
  have some_left := (execution.threadAt number first).turnsUndisturbed_pos
  have inRange : first < execution.schedule.length := by
    by_contra beyond
    rw [List.drop_of_length_le (Nat.le_of_not_lt beyond), List.count_nil] at enough
    omega
  have busy := isDone_threadAt ((currentAt?_eq current).trans present)
  have since_eq := execution.card_lostSince number index first
  rw [List.drop_eq_getElem_cons inRange, List.count_cons] at enough
  by_cases own : execution.schedule[first]? = some number
  · have own_turn : execution.schedule[first] = number :=
      (List.getElem?_eq_some_iff.1 own).2
    have takes := takes_turn (execution.systemAt first).shared busy
    rw [← threadAt_succ_self own] at takes
    rcases takes.length_answers with returned | ⟨unanswered, -⟩
    · have kept := execution.length_answers_le number (Nat.succ_le_of_lt inRange)
      rw [Nat.succ_eq_add_one] at kept
      omega
    · have lt := takes.turnsUndisturbed_lt unanswered
      have lost_iff : first ∈ execution.lost number index ↔
          (execution.threadAt number first).losesExchange
            (execution.systemAt first).shared.word = true :=
        mem_lost.trans (and_iff_right ⟨own, current⟩)
      simp only [lost_iff] at since_eq
      simp only [own_turn, beq_self_eq_true, if_true] at enough
      exact returns_of_count present (unanswered.trans current) (by omega)
  · have others : execution.schedule[first] ≠ number := fun same =>
      own (List.getElem?_eq_some_iff.2 ⟨inRange, same⟩)
    have notMem : first ∉ execution.lost number index := fun member =>
      own (mem_lost.1 member).1.1
    have stands := threadAt_succ_of_ne own
    rw [if_neg notMem] at since_eq
    rw [if_neg (by simpa using others)] at enough
    rw [← stands] at current enough
    exact returns_of_count present current (by omega)
-- The recursion follows the turns that are left of the schedule.
termination_by execution.schedule.length - first

/-! ## Interference that only adds -/

/-- The threads that have turns while the call is under way have them at calls that only add. -/
def IsOnlyAddedTo (execution : Execution) (number index : Nat) : Prop :=
  ∀ time other,
    execution.IsUnderWay number index time →
    execution.schedule[time]? = some other →
    other ≠ number →
    ∀ call ∈ execution.currentAt? other time, call.isAdding = true

/-- Threads with nothing but calls that only add have no other turns. -/
theorem isOnlyAddedTo_of_programs
    (adding : ∀ other, other ≠ number →
      ∀ call ∈ execution.programs.getD other [], call.isAdding = true) :
    execution.IsOnlyAddedTo number index := by
  intro time other _ _ differs call current
  exact adding other differs call (List.mem_of_getElem? current)

/-- A turn at a call that only adds leaves every bit. -/
theorem contains_wordAt_succ
    (adding : ∀ number, execution.schedule[time]? = some number →
      ∀ call ∈ execution.currentAt? number time, call.isAdding = true) :
    (execution.wordAt (time + 1)).contains (execution.wordAt time) = true := by
  cases present : execution.schedule[time]? with
  | none =>
      rw [wordAt, systemAt_succ_of_none present]
      exact Word.contains_self _
  | some number =>
      have replays := System.replays_linearization (execution.isSound_systemAt time) [number]
      rw [wordAt, systemAt_succ present]
      exact contains_of_replays replays fun operation member =>
        adding number present operation.call (currentAt?_of_mem_linearization member)

/-- From one of its turns on a promotion finds every bit again, until it returns. -/
theorem contains_wordAt
    {target : Code}
    (present : (execution.programs.getD number [])[index]? = some (.promote target))
    (onlyAdds : execution.IsOnlyAddedTo number index)
    {first last : Nat}
    (own : execution.IsOwnTurn number index first)
    (ordered : first ≤ last)
    (unanswered : (execution.threadAt number last).answers.length = index) :
    (execution.wordAt last).contains (execution.wordAt first) = true := by
  induction last, ordered using Nat.le_induction with
  | base => exact Word.contains_self _
  | succ last ordered inductionHypothesis =>
      have still := length_answers_eq_of_between own.2 unanswered ordered (Nat.le_succ last)
      refine Word.contains_trans (contains_wordAt_succ ?_) (inductionHypothesis still)
      intro other turn_eq call current
      by_cases same : other = number
      · subst same
        rw [currentAt?_eq still, present] at current
        obtain rfl := Option.some.inj current
        rfl
      · have later : first < last := by
          refine Nat.lt_of_le_of_ne ordered ?_
          rintro rfl
          exact same (Option.some.inj (turn_eq.symm.trans own.1))
        have busy := isDone_threadAt ((currentAt?_eq own.2).trans present)
        exact onlyAdds last other (own.isUnderWay busy later still) turn_eq same call current

/-- A promotion that reads the word again finds more bits than before. -/
theorem grows
    {target : Code}
    (present : (execution.programs.getD number [])[index]? = some (.promote target))
    (onlyAdds : execution.IsOnlyAddedTo number index)
    {first second : Nat}
    (first_mem : first ∈ execution.reads number index)
    (second_mem : second ∈ execution.reads number index)
    (ordered : first < second) :
    (execution.wordAt second).contains (execution.wordAt first) = true ∧
      execution.wordAt second ≠ execution.wordAt first := by
  obtain ⟨own, readsWord⟩ := mem_reads.1 first_mem
  obtain ⟨own_later, readsWord_later⟩ := mem_reads.1 second_mem
  have grown := contains_wordAt present onlyAdds own ordered.le own_later.2
  refine ⟨grown, fun same => ?_⟩
  have underWay := own.isUnderWay (Thread.isDone_of_readsWord readsWord) ordered own_later.2
  have loses := Thread.losesExchange_of_readsWord readsWord_later underWay.2
  obtain ⟨expected, seen, pending_eq, differs⟩ := Thread.losesExchange_iff.1 loses
  obtain ⟨read, read_mem, earlier, idle, read_eq, -⟩ := exists_read pending_eq own_later.2
  -- The word that the exchange expects was read in the first of the two turns or after it, so it
  -- lies between the two words, which are the same.
  have read_own := (mem_reads.1 read_mem).1
  have contains_read :=
    contains_wordAt present onlyAdds own (own.le_of_isIdleBetween idle ordered) read_own.2
  have contains_later :=
    contains_wordAt present onlyAdds read_own earlier.le own_later.2
  rw [read_eq] at contains_read contains_later
  rw [← same] at contains_read
  exact differs (Word.eq_of_contains contains_later contains_read)

/-- A promotion whose word is only added to loses no more exchanges than a word has bits. -/
theorem card_lost_le_of_isOnlyAddedTo
    {target : Code}
    (present : (execution.programs.getD number [])[index]? = some (.promote target))
    (onlyAdds : execution.IsOnlyAddedTo number index) :
    (execution.lost number index).card ≤ 8 := by
  have room_lt {first second : Nat}
      (first_mem : first ∈ execution.reads number index)
      (second_mem : second ∈ execution.reads number index)
      (ordered : first < second) :
      (execution.wordAt second).room < (execution.wordAt first).room := by
    obtain ⟨grown, differs⟩ := grows present onlyAdds first_mem second_mem ordered
    exact Word.room_lt_of_contains grown differs
  rw [← Finset.card_range 8]
  refine Finset.card_le_card_of_injOn (fun time => (execution.wordAt time).room) ?_ ?_
  · intro time member
    obtain ⟨own, loses⟩ := mem_lost.1 member
    obtain ⟨expected, seen, pending_eq, -⟩ := Thread.losesExchange_iff.1 loses
    obtain ⟨read, read_mem, earlier, -⟩ := exists_read pending_eq own.2
    have lt := room_lt read_mem (mem_reads_of_mem_lost member) earlier
    exact Finset.mem_range.2 (Nat.lt_of_lt_of_le lt (Word.room_le _))
  · intro first first_mem second second_mem same
    have first_reads := mem_reads_of_mem_lost first_mem
    have second_reads := mem_reads_of_mem_lost second_mem
    rcases Nat.lt_trichotomy first second with before | rfl | after
    · exact absurd same (room_lt first_reads second_reads before).ne'
    · rfl
    · exact absurd same (room_lt second_reads first_reads after).ne

/-! ## Bounds -/

/-- What interference that only adds can do to a promotion. -/
structure IsBoundedByRoom (execution : Execution) (number index : Nat) : Prop where
  /-- Each word that the promotion reads has all the bits of those that it has read before, and
  some more. -/
  grows : ∀ first ∈ execution.reads number index, ∀ second ∈ execution.reads number index,
    first < second →
    (execution.wordAt second).contains (execution.wordAt first) = true ∧
      execution.wordAt second ≠ execution.wordAt first
  /-- It loses no more than eight exchanges. -/
  card_lost_le : (execution.lost number index).card ≤ 8
  /-- It has returned when its thread has had eleven turns for it. -/
  returns : ∀ time,
    (execution.threadAt number time).answers.length = index →
    turnsPerCall ≤ (execution.schedule.drop time).count number →
    index < (execution.threadAt number execution.schedule.length).answers.length

/-- What interference can do to a promotion, the call of a thread with this index. -/
structure IsBoundedByInterference (execution : Execution) (number index : Nat) : Prop where
  /-- Each exchange that it loses is charged to a change of its own, which another thread has made
  since the promotion read the word before. -/
  exists_charge : ∃ charge : Nat → Nat,
    StrictMonoOn charge (execution.lost number index) ∧
      ∀ time ∈ execution.lost number index,
        execution.IsChargedTo number index time (charge time)
  /-- It loses no more exchanges than there are changes by others while it is under way. -/
  card_lost_le :
    (execution.lost number index).card ≤ (execution.interference number index).card
  /-- It loses none if there are no such changes. -/
  lost_eq_empty :
    execution.interference number index = ∅ → execution.lost number index = ∅
  /-- It has returned when its thread has had three turns for it and one for each exchange that it
  loses. -/
  returns : ∀ time,
    (execution.threadAt number time).answers.length = index →
    3 + (execution.lost number index).card ≤ (execution.schedule.drop time).count number →
    index < (execution.threadAt number execution.schedule.length).answers.length
  /-- If the others only add bits in the meantime, the room in the word bounds it. -/
  isBoundedByRoom :
    execution.IsOnlyAddedTo number index → execution.IsBoundedByRoom number index

/-- Every promotion is bounded by interference, in every execution. -/
theorem isBoundedByInterference
    (execution : Execution)
    (number index : Nat)
    (target : Code)
    (present : (execution.programs.getD number [])[index]? = some (.promote target)) :
    execution.IsBoundedByInterference number index := by
  have returns (time : Nat)
      (current : (execution.threadAt number time).answers.length = index)
      (enough : 3 + (execution.lost number index).card ≤
        (execution.schedule.drop time).count number) :
      index < (execution.threadAt number execution.schedule.length).answers.length := by
    have since_le := execution.card_lostSince_le number index time
    have undisturbed_le := (execution.threadAt number time).turnsUndisturbed_le
    exact returns_of_count present current (by omega)
  exact
    { exists_charge := execution.exists_charge number index
      card_lost_le := execution.card_lost_le number index
      lost_eq_empty := by
        intro undisturbed
        have le := execution.card_lost_le number index
        rw [undisturbed, Finset.card_empty, Nat.le_zero, Finset.card_eq_zero] at le
        exact le
      returns := returns
      isBoundedByRoom := by
        intro onlyAdds
        have lost_le := card_lost_le_of_isOnlyAddedTo present onlyAdds
        exact
          { grows := fun first first_mem second second_mem =>
              Execution.grows present onlyAdds first_mem second_mem
            card_lost_le := lost_le
            returns := by
              intro time current enough
              unfold turnsPerCall at enough
              exact returns time current (by omega) } }

/-- A promotion that reads the word, and reads it again after each of seven insertions. -/
def amongInsertions : Execution where
  word := Code.undefined.word
  programs :=
    [[.promote .active],
      [.insert ⟨0x80⟩, .insert ⟨0x02⟩, .insert ⟨0x04⟩, .insert ⟨0x08⟩, .insert ⟨0x10⟩,
        .insert ⟨0x20⟩, .insert ⟨0x40⟩]]
  schedule := 0 :: (List.replicate 7 [1, 1, 0]).flatten

/-- It loses an exchange to each insertion, and finds in the end that the stage is reached. -/
theorem isBoundedByInterference_amongInsertions :
    (amongInsertions.programs.getD 0 [])[0]? = some (.promote .active) ∧
      amongInsertions.lost 0 0 = {3, 6, 9, 12, 15, 18, 21} ∧
      amongInsertions.interference 0 0 = {1, 4, 7, 10, 13, 16, 19} ∧
      amongInsertions.IsBoundedByInterference 0 0 ∧
      amongInsertions.IsBoundedByRoom 0 0 := by
  have bounded := isBoundedByInterference amongInsertions 0 0 .active rfl
  refine ⟨rfl, by decide, by decide, bounded, bounded.isBoundedByRoom ?_⟩
  apply isOnlyAddedTo_of_programs
  intro other differs call member
  match other with
  | 0 => contradiction
  | 1 => exact List.all_eq_true.1 (by decide : List.all _ Call.isAdding = true) call member
  | _ + 2 => contradiction

/-- Nothing else bounds it: it goes on losing exchanges to a thread that takes bits away. -/
example :
    let execution : Execution :=
      { word := Code.undefined.word
        programs := [[.promote .active], (List.replicate 6 [.stage, .set .undefined]).flatten]
        schedule := 0 :: (List.replicate 12 [1, 1, 0]).flatten }
    (execution.lost 0 0).card = 12 := by
  decide

end Execution
end Cell
end ObjectStatus
