import ObjectStatus.Proofs.Cell.Answered
import ObjectStatus.Proofs.Cell.Arrival

/-!
# A thread that has a cell to itself

A thread that shares its cell with nobody loses no exchange, so three turns are enough for each of
its calls. What then comes of the calls is what they do one after another: the word, the answers,
and also the changes that the thread hands to the log, in the order in which it makes them.
-/

namespace ObjectStatus
namespace Cell

/-- The operations of a replay leave the word and get the answers of their calls made one after
another. -/
theorem eq_alone_of_replays
    {before after : Word}
    {operations : List Operation}
    (replays : Replays before operations after)
    (index : Nat) :
    after = wordAfter (operations.map (·.call)) before ∧
      operations.map (·.answer) =
        (operationsAlone index (operations.map (·.call)) before).map (·.answer) := by
  induction replays generalizing index with
  | nil word => exact ⟨rfl, rfl⟩
  | @cons before middle after operation rest specified _ inductionHypothesis =>
      obtain ⟨after_eq, answers_eq⟩ := inductionHypothesis (index + 1)
      have effect_eq := specified_iff.1 specified
      rw [List.map_cons, List.map_cons, wordAfter_cons, operationsAlone, List.map_cons, effect_eq]
      exact ⟨after_eq, congrArg (List.cons operation.answer) answers_eq⟩

/-! ## Turns -/

/-- The turns that are left of a call, if nobody interferes. -/
def Pending.turnsAlone : Pending → Nat
  | .exchange _ _ => 2
  | .record _ _ => 1

theorem Pending.turnsAlone_pos (pending : Pending) : 0 < pending.turnsAlone := by
  cases pending <;> exact Nat.zero_lt_succ _

namespace Thread

/-- The turns that a thread needs for all that it has not finished, if nobody interferes. -/
def turnsAlone (thread : Thread) : Nat :=
  thread.pending.elim 0 Pending.turnsAlone + 3 * thread.calls.length

/-- The word is still what a promotion of the thread has read. -/
def IsUpToDate (word : Word) (thread : Thread) : Prop :=
  ∀ target seen, thread.pending = some (.exchange target seen) → seen = word

/-- A call that has made its last access to the word needs one more turn at most. -/
theorem turnsAlone_advance_replaced
    (thread : Thread)
    (source target : Word)
    (answer : Answer) :
    (thread.advance (.replaced source target answer)).turnsAlone ≤ 1 + 3 * thread.calls.length := by
  unfold Progress.replaced
  cases Transition.ofWords? source target with
  | none => exact Nat.add_le_add_right (Nat.zero_le 1) _
  | some change => exact Nat.le_refl _

theorem isUpToDate_advance_replaced
    (thread : Thread)
    (word source target : Word)
    (answer : Answer) :
    (thread.advance (.replaced source target answer)).IsUpToDate word := by
  unfold Progress.replaced
  cases Transition.ofWords? source target <;> simp [advance, IsUpToDate]

end Thread

/-- A turn that nobody has interfered with is one of the turns that the thread needs. -/
theorem turnsAlone_turn_le
    {shared : Shared}
    {thread : Thread}
    (upToDate : thread.IsUpToDate shared.word) :
    (turn shared thread).2.turnsAlone ≤ thread.turnsAlone - 1 ∧
      (turn shared thread).2.IsUpToDate (turn shared thread).1.word := by
  obtain ⟨pending, calls, answers⟩ := thread
  rcases pending with _ | ⟨⟨target, seen⟩ | ⟨change, answer⟩⟩
  · cases calls with
    | nil => exact ⟨Nat.zero_le _, upToDate⟩
    | cons call rest =>
        have needed : (Thread.mk none (call :: rest) answers).turnsAlone = 3 + 3 * rest.length := by
          rw [Thread.turnsAlone, List.length_cons, Nat.mul_succ]
          exact (Nat.zero_add _).trans (Nat.add_comm _ _)
        rcases call.begin_cases shared.word with settled | ⟨target, rfl, goesOn, -⟩
        · simp only [turn, settled, Call.outcome]
          refine ⟨(Thread.turnsAlone_advance_replaced _ _ _ _).trans ?_,
            Thread.isUpToDate_advance_replaced _ _ _ _ _⟩
          dsimp only
          omega
        · simp only [turn, goesOn]
          refine ⟨?_, ?_⟩
          · rw [needed, Thread.advance, Thread.turnsAlone, Option.elim_some, Pending.turnsAlone]
            dsimp only
            omega
          · rintro other seen pending_eq
            injection pending_eq with exchange_eq
            injection exchange_eq with _ seen_eq
            exact seen_eq.symm
  · obtain rfl := upToDate target seen rfl
    simp only [turn, Call.exchange, if_true]
    refine ⟨(Thread.turnsAlone_advance_replaced _ _ _ _).trans ?_,
      Thread.isUpToDate_advance_replaced _ _ _ _ _⟩
    simp only [Thread.turnsAlone, Option.elim_some, Pending.turnsAlone]
    omega
  · refine ⟨?_, ?_⟩
    · simp only [turn, Thread.advance, Thread.turnsAlone, Option.elim_some, Option.elim_none,
        Pending.turnsAlone]
      omega
    · simp [turn, Thread.advance, Thread.IsUpToDate]

namespace System

/-- There is one thread, and nothing that it relies on is out of date. -/
structure IsAlone (system : System) : Prop where
  length_threads : system.threads.length = 1
  upToDate : (system.thread 0).IsUpToDate system.shared.word

theorem isAlone_start
    (word : Word)
    (calls : List Call) : (start word [calls]).IsAlone where
  length_threads := rfl
  upToDate := by simp [thread_start, Thread.new, Thread.IsUpToDate]

/-- A number without a thread stands for one that is done. -/
theorem thread_of_length_le
    {system : System}
    {number : Nat}
    (outside : system.threads.length ≤ number) : system.thread number = .new [] := by
  simp [thread, List.getD_eq_getElem?_getD, List.getElem?_eq_none outside]

theorem step_of_length_le
    {system : System}
    {number : Nat}
    (outside : system.threads.length ≤ number) : system.step number = system := by
  simp [step, List.getElem?_eq_none outside]

/-- A turn goes to the only thread, or to none. -/
theorem IsAlone.eq_zero_or_length_le
    {system : System}
    (alone : system.IsAlone)
    (number : Nat) : number = 0 ∨ system.threads.length ≤ number := by
  have one := alone.length_threads
  omega

theorem IsAlone.step
    {system : System}
    (alone : system.IsAlone)
    (number : Nat) : (system.step number).IsAlone := by
  rcases alone.eq_zero_or_length_le number with rfl | outside
  · refine ⟨(system.length_threads_step 0).trans alone.length_threads, ?_⟩
    rw [thread_step_self, shared_step]
    exact (turnsAlone_turn_le alone.upToDate).2
  · rwa [step_of_length_le outside]

theorem IsAlone.turnsAlone_turn_le
    {system : System}
    (alone : system.IsAlone)
    (number : Nat) :
    (turn system.shared (system.thread number)).2.turnsAlone ≤
      (system.thread number).turnsAlone - 1 := by
  rcases alone.eq_zero_or_length_le number with rfl | outside
  · exact (Cell.turnsAlone_turn_le alone.upToDate).1
  · rw [thread_of_length_le outside]
    exact Nat.zero_le _

/-- A thread that has its cell to itself is done after three turns for each of its calls. -/
theorem isDone_of_alone
    (word : Word)
    {calls : List Call}
    {schedule : List Nat}
    (enough : 3 * calls.length ≤ schedule.count 0) :
    ((start word [calls]).run schedule).isDone = true := by
  have alone := isAlone_start word calls
  have run_le := needs_run_le (fun _ alone number => IsAlone.step alone number)
    (fun _ alone number => IsAlone.turnsAlone_turn_le alone number) alone schedule 0
  have start_eq : ((start word [calls]).thread 0).turnsAlone = 3 * calls.length := by
    rw [thread_start]
    exact Nat.zero_add _
  have needs_nothing : (((start word [calls]).run schedule).thread 0).turnsAlone = 0 := by omega
  refine isDone_of_thread fun number => ?_
  by_cases same : number = 0
  · subst same
    exact Thread.isDone_of_needs Pending.turnsAlone_pos (by decide) needs_nothing
  · have length_eq := (length_threads_run (start word [calls]) schedule).trans alone.length_threads
    rw [thread_of_length_le (by omega)]
    rfl

/-! ## What is handed to the log -/

/-- All that is owed is what the only thread owes. -/
theorem IsAlone.owed_eq
    {system : System}
    (alone : system.IsAlone) : system.owed = (system.thread 0).owed := by
  obtain ⟨thread, threads_eq⟩ := List.length_eq_one_iff.1 alone.length_threads
  simp [owed, System.thread, threads_eq]

/-- In a turn, the log gains with what is owed to it the change of the word, and at the end. -/
theorem IsAlone.account_step
    {system : System}
    (alone : system.IsAlone)
    (sound : system.IsSound)
    (number : Nat) :
    (system.step number).shared.recorded ++ (system.step number).owed =
      system.shared.recorded ++ system.owed ++
        (Transition.ofWords? system.shared.word (system.step number).shared.word).toList := by
  rcases alone.eq_zero_or_length_le number with rfl | outside
  · have account := (turnSpec system.shared (sound 0)).account
    rw [(alone.step 0).owed_eq, alone.owed_eq, thread_step_self, shared_step]
    exact account
  · rw [step_of_length_le outside, Transition.ofWords?_self, Option.toList_none, List.append_nil]

/-- During a schedule, the log gains with what is owed to it the changes of the word, in their
order. -/
theorem IsAlone.account_run
    {system : System}
    (alone : system.IsAlone)
    (sound : system.IsSound)
    (schedule : List Nat) :
    (system.run schedule).shared.recorded ++ (system.run schedule).owed =
      system.shared.recorded ++ system.owed ++ system.changes schedule := by
  induction schedule generalizing system with
  | nil => exact (List.append_nil _).symm
  | cons number rest inductionHypothesis =>
      rw [run_cons, changes_cons, inductionHypothesis (alone.step number) (sound.step number),
        alone.account_step sound number, List.append_assoc]

/-! ## What comes of the calls -/

/-- The only thread has made all calls, and it has made them one after another. -/
structure HasMade (word : Word) (calls : List Call) (system : System) : Prop where
  /-- All calls have returned. -/
  isDone : system.isDone = true
  /-- The word is the one that the calls leave. -/
  word_eq : system.shared.word = wordAfter calls word
  /-- The answers are those that the calls get. -/
  answers_eq :
    (system.thread 0).answers = (operationsAlone 0 calls word).map (·.answer)
  /-- The log has got the changes that the calls make. -/
  recorded_eq : system.shared.recorded = changesAlone calls word

/-- All operations are those of the only thread. -/
theorem ofThread_linearization_alone
    (word : Word)
    (calls : List Call)
    (schedule : List Nat) :
    Operation.ofThread 0 ((start word [calls]).linearization schedule) =
      (start word [calls]).linearization schedule := by
  rw [Operation.ofThread, List.filter_eq_self]
  intro operation member
  have below := thread_lt_of_mem_linearization member
  rw [(isAlone_start word calls).length_threads, Nat.lt_one_iff] at below
  exact decide_eq_true below

/-- A thread that has its cell to itself makes its calls one after another, whatever turns it is
given, as long as there are three for each call. -/
theorem hasMade
    (word : Word)
    {calls : List Call}
    {schedule : List Nat}
    (enough : 3 * calls.length ≤ schedule.count 0) :
    HasMade word calls ((start word [calls]).run schedule) := by
  have alone := isAlone_start word calls
  have sound := isSound_start word [calls]
  have done := isDone_of_alone word enough
  obtain ⟨calls_eq, answers_eq⟩ := calls_eq_of_isDone done 0
  rw [ofThread_linearization_alone, List.getD_cons_zero] at calls_eq
  rw [ofThread_linearization_alone] at answers_eq
  obtain ⟨word_eq, told_eq⟩ := eq_alone_of_replays (replays_linearization sound schedule) 0
  have account := alone.account_run sound schedule
  rw [owed_of_isDone done, owed_start, List.append_nil, changes_eq_changesAlone sound] at account
  rw [← calls_eq] at word_eq told_eq account
  exact
    { isDone := done
      word_eq := word_eq
      answers_eq := answers_eq.trans told_eq
      recorded_eq := account }

end System
end Cell
end ObjectStatus
