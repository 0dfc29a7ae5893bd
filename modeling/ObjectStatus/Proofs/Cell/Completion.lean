import ObjectStatus.Proofs.Cell.Overwriting

/-!
# Calls that always return

A promotion that loses its exchange tries again, and nothing bounds how often it does when other
threads set and clear bits as they like. It is different when all calls of all threads only add
bits: an exchange is lost only to a call that has set a bit which was clear before, and a word has
no more than eight bits to set. So every call returns within eleven turns of its thread, whatever
the other threads do: one to begin, one for each bit, one to exchange and one to hand over. A call
that is no promotion has nothing to lose, and always returns within two turns of its thread.
-/

namespace ObjectStatus
namespace Cell

/-- The call may set bits and does not clear any. -/
def Call.isAdding : Call → Bool
  | .insert _ => true
  | .promote _ => true
  | .set _ => false
  | .transition _ _ => false

/-- A call that only adds overwrites nothing. -/
theorem not_clears_of_isAdding
    {call : Call}
    {answer : Answer}
    (adding : call.isAdding = true)
    (position : Nat) : ¬Clears position call answer := by
  intro clears
  cases clears <;> contradiction

/-- Operations that only add leave a word that contains the word before them. -/
theorem contains_of_replays
    {before after : Word}
    {operations : List Operation}
    (replays : Replays before operations after)
    (adding : ∀ operation ∈ operations, operation.call.isAdding = true) :
    after.contains before = true := by
  refine ((losesByOverwriting_of_replays replays).isNoStepBack ?_).contains_eq
  intro position _ operation member
  exact not_clears_of_isAdding (adding operation member) position

/-! ## Turns that are left -/

/-- The turns that a call needs when it has all of them before it: one to begin, one for every bit
of the word, one to exchange and one to hand over. -/
def turnsPerCall : Nat := 11

/-- The turns that the rest of a call needs. An exchange may be lost once for every bit that is
clear in the word that it expects. -/
def Pending.turnsLeft : Pending → Nat
  | .exchange _ seen => seen.room + 2
  | .record _ _ => 1

/-- What an exchange expects is contained in the word. -/
def Pending.IsBelow (word : Word) : Pending → Prop
  | .exchange _ seen => word.contains seen = true
  | .record _ _ => True

theorem Pending.IsBelow.mono
    {pending : Pending}
    {word larger : Word}
    (below : pending.IsBelow word)
    (grown : larger.contains word = true) : pending.IsBelow larger := by
  cases pending with
  | exchange target seen => exact Word.contains_trans grown below
  | record change answer => trivial

namespace Progress

/-- The turns that a call needs that stands like this. -/
def turnsLeft : Progress → Nat
  | .finished _ => 0
  | .underWay pending => pending.turnsLeft

/-- What a call that stands like this expects is contained in the word. -/
def IsBelow (word : Word) : Progress → Prop
  | .finished _ => True
  | .underWay pending => pending.IsBelow word

theorem turnsLeft_replaced_le
    (source target : Word)
    (answer : Answer) : (replaced source target answer).turnsLeft ≤ 1 := by
  unfold replaced
  cases Transition.ofWords? source target with
  | none => exact Nat.zero_le 1
  | some change => exact Nat.le_refl 1

theorem isBelow_replaced
    (word source target : Word)
    (answer : Answer) : (replaced source target answer).IsBelow word := by
  unfold replaced
  cases Transition.ofWords? source target <;> trivial

theorem turnsLeft_examined_le
    (target : Code)
    (seen : Word) : (examined target seen).turnsLeft ≤ seen.room + 2 := by
  unfold examined
  split
  · exact Nat.zero_le _
  · split
    · exact Nat.zero_le _
    · exact Nat.le_refl _

theorem isBelow_examined
    (target : Code)
    (seen : Word) : (examined target seen).IsBelow seen := by
  unfold examined
  split
  · trivial
  · split
    · trivial
    · exact seen.contains_self

end Progress

/-- The first turn of a call is one of the turns that it needs. -/
theorem Call.turnsLeft_begin_lt (call : Call) (word : Word) :
    (call.begin word).2.turnsLeft < turnsPerCall ∧
      (call.begin word).2.IsBelow (call.begin word).1 := by
  have replaced_fits (after source target : Word) (answer : Answer) :
      (Progress.replaced source target answer).turnsLeft < turnsPerCall ∧
        (Progress.replaced source target answer).IsBelow after :=
    ⟨Nat.lt_of_le_of_lt (Progress.turnsLeft_replaced_le source target answer) (by decide),
      Progress.isBelow_replaced after source target answer⟩
  have finished_fits (answer : Answer) :
      (Progress.finished answer).turnsLeft < turnsPerCall ∧
        (Progress.finished answer).IsBelow word :=
    ⟨Nat.zero_lt_succ 10, trivial⟩
  cases call with
  | set code => exact replaced_fits _ _ _ _
  | insert bits => exact replaced_fits _ _ _ _
  | transition source target =>
      by_cases expected : word = source.word
      · simp only [begin, if_pos expected]
        exact replaced_fits _ _ _ _
      · simp only [begin, if_neg expected]
        exact finished_fits _
  | promote target =>
      by_cases stage : target.isLifecycle = true
      · have examined_le := Progress.turnsLeft_examined_le target word
        have room_le := word.room_le
        simp only [begin, if_pos stage]
        refine ⟨?_, Progress.isBelow_examined target word⟩
        unfold turnsPerCall
        omega
      · simp only [begin, if_neg stage]
        exact finished_fits _

/-- An exchange succeeds, or it is lost and the word has less room by then. -/
theorem Call.turnsLeft_exchange_lt
    {seen word : Word}
    (below : word.contains seen = true)
    (target : Code) :
    (exchange target seen word).2.turnsLeft < seen.room + 2 ∧
      (exchange target seen word).2.IsBelow (exchange target seen word).1 := by
  unfold exchange
  split
  · have replaced_le := Progress.turnsLeft_replaced_le seen (seen.insert target.word)
      (.current (seen.insert target.word))
    exact ⟨by dsimp only; omega, Progress.isBelow_replaced _ _ _ _⟩
  · rename_i different
    have examined_le := Progress.turnsLeft_examined_le target word
    have room_lt := Word.room_lt_of_contains below different
    exact ⟨by dsimp only; omega, Progress.isBelow_examined target word⟩

namespace Thread

/-- The turns that a thread needs for all that it has not finished. -/
def turnsLeft (thread : Thread) : Nat :=
  thread.pending.elim 0 Pending.turnsLeft + turnsPerCall * thread.calls.length

/-- What the thread expects is contained in the word. -/
def IsBelow (word : Word) (thread : Thread) : Prop :=
  ∀ pending ∈ thread.pending, pending.IsBelow word

theorem turnsLeft_advance
    (thread : Thread)
    (progress : Progress) :
    (thread.advance progress).turnsLeft =
      progress.turnsLeft + turnsPerCall * thread.calls.length := by
  cases progress <;> rfl

theorem isBelow_advance
    {thread : Thread}
    {word : Word}
    {progress : Progress}
    (below : progress.IsBelow word) : (thread.advance progress).IsBelow word := by
  cases progress with
  | finished answer => simp [IsBelow, advance]
  | underWay pending =>
      intro pending' member
      obtain rfl := Option.some.inj member
      exact below

/-- A thread that needs no more turns is done. -/
theorem isDone_of_turnsLeft
    {thread : Thread}
    (nothing : thread.turnsLeft = 0) : thread.isDone = true := by
  refine Thread.isDone_of_needs (fun pending => ?_) (by decide) nothing
  cases pending <;> exact Nat.zero_lt_succ _

end Thread

/-- In its turn a thread uses one of the turns that it needs. -/
theorem turnsLeft_turn_le
    {shared : Shared}
    {thread : Thread}
    (below : thread.IsBelow shared.word) :
    (turn shared thread).2.turnsLeft ≤ thread.turnsLeft - 1 ∧
      (turn shared thread).2.IsBelow (turn shared thread).1.word := by
  obtain ⟨pending, calls, answers⟩ := thread
  rcases pending with _ | ⟨⟨target, seen⟩ | ⟨change, answer⟩⟩
  · cases calls with
    | nil => exact ⟨Nat.zero_le _, below⟩
    | cons call rest =>
        obtain ⟨begin_lt, begin_below⟩ := call.turnsLeft_begin_lt shared.word
        refine ⟨?_, Thread.isBelow_advance begin_below⟩
        simp only [turn, Thread.turnsLeft_advance]
        simp only [Thread.turnsLeft, Option.elim_none, List.length_cons]
        rw [Nat.mul_succ]
        omega
  · obtain ⟨exchange_lt, exchange_below⟩ :=
      Call.turnsLeft_exchange_lt (below _ rfl : shared.word.contains seen = true) target
    refine ⟨?_, Thread.isBelow_advance exchange_below⟩
    simp only [turn, Thread.turnsLeft_advance]
    simp only [Thread.turnsLeft, Option.elim_some, Pending.turnsLeft]
    omega
  · refine ⟨?_, Thread.isBelow_advance trivial⟩
    simp only [turn, Thread.turnsLeft_advance]
    simp only [Thread.turnsLeft, Option.elim_some, Pending.turnsLeft, Progress.turnsLeft]
    omega

namespace System

/-- The system is sound, what is left to do only adds, and no thread expects bits that the word
does not have. -/
structure IsAdding (system : System) : Prop where
  sound : system.IsSound
  adding : ∀ call ∈ system.remaining, call.isAdding = true
  below : ∀ number, (system.thread number).IsBelow system.shared.word

theorem isAdding_start
    (word : Word)
    {programs : List (List Call)}
    (adding : ∀ call ∈ programs.flatten, call.isAdding = true) :
    (start word programs).IsAdding where
  sound := isSound_start word programs
  adding := by rwa [remaining_start]
  below := by
    intro number
    rw [thread_start]
    simp [Thread.IsBelow, Thread.new]

/-- The operations of a schedule of calls that only add are such calls. -/
theorem IsAdding.isAdding_of_mem
    {system : System}
    (isAdding : system.IsAdding)
    (schedule : List Nat) :
    (∀ operation ∈ system.linearization schedule, operation.call.isAdding = true) ∧
      ∀ call ∈ (system.run schedule).remaining, call.isAdding = true := by
  have same := perm_remaining_run isAdding.sound schedule
  constructor
  · intro operation member
    exact isAdding.adding _
      (same.subset (List.mem_append_left _ (List.mem_map_of_mem member)))
  · intro call member
    exact isAdding.adding call (same.subset (List.mem_append_right _ member))

/-- The word contains what it was before the schedule. -/
theorem IsAdding.contains_run
    {system : System}
    (isAdding : system.IsAdding)
    (schedule : List Nat) :
    (system.run schedule).shared.word.contains system.shared.word = true :=
  contains_of_replays (replays_linearization isAdding.sound schedule)
    (isAdding.isAdding_of_mem schedule).1

theorem IsAdding.step
    {system : System}
    (isAdding : system.IsAdding)
    (number : Nat) : (system.step number).IsAdding where
  sound := isAdding.sound.step number
  adding := (isAdding.isAdding_of_mem [number]).2
  below := by
    intro other
    by_cases same : other = number
    · subst same
      rw [thread_step_self, shared_step]
      exact (turnsLeft_turn_le (isAdding.below other)).2
    · rw [thread_step_of_ne same]
      intro pending member
      exact (isAdding.below other pending member).mono (isAdding.contains_run [number])

/-- A schedule uses the turns that it gives to a thread, as long as the thread needs them. -/
theorem IsAdding.turnsLeft_run_le
    {system : System}
    (isAdding : system.IsAdding)
    (schedule : List Nat)
    (number : Nat) :
    ((system.run schedule).thread number).turnsLeft ≤
      (system.thread number).turnsLeft - schedule.count number :=
  needs_run_le (fun _ adding number => adding.step number)
    (fun _ adding number => (turnsLeft_turn_le (adding.below number)).1) isAdding schedule number

/-- Calls that only add have all returned when every thread has had eleven turns for each of its
calls, however the turns are mixed. -/
theorem isDone_of_turnsPerCall
    (word : Word)
    {programs : List (List Call)}
    {schedule : List Nat}
    (adding : ∀ call ∈ programs.flatten, call.isAdding = true)
    (enough : ∀ number,
      turnsPerCall * (programs.getD number []).length ≤ schedule.count number) :
    ((start word programs).run schedule).isDone = true := by
  have needs_nothing (number : Nat) :
      (((start word programs).run schedule).thread number).turnsLeft = 0 := by
    have run_le := (isAdding_start word adding).turnsLeft_run_le schedule number
    have start_eq :
        ((start word programs).thread number).turnsLeft =
          turnsPerCall * (programs.getD number []).length := by
      rw [thread_start]
      exact Nat.zero_add _
    have enough_turns := enough number
    omega
  exact isDone_of_thread fun number => Thread.isDone_of_turnsLeft (needs_nothing number)

end System

/-! ## Calls that are no promotions -/

/-- The call is no promotion. -/
def Call.isPrompt : Call → Bool
  | .promote _ => false
  | _ => true

namespace Thread

/-- The thread is not about to exchange what it has read before, and never will be. -/
structure IsPrompt (thread : Thread) : Prop where
  pending : ∀ target seen, thread.pending ≠ some (.exchange target seen)
  calls : ∀ call ∈ thread.calls, call.isPrompt = true

/-- The turns that such a thread needs: two for each call, or one if the call is under way. -/
def promptTurnsLeft (thread : Thread) : Nat :=
  thread.pending.toList.length + 2 * thread.calls.length

theorem isPrompt_advance_replaced
    (thread : Thread)
    (calls : ∀ call ∈ thread.calls, call.isPrompt = true)
    (source target : Word)
    (answer : Answer) :
    (thread.advance (.replaced source target answer)).IsPrompt ∧
      (thread.advance (.replaced source target answer)).promptTurnsLeft ≤
        1 + 2 * thread.calls.length := by
  unfold Progress.replaced
  cases Transition.ofWords? source target with
  | none => exact ⟨⟨by simp [advance], calls⟩, by simp [advance, promptTurnsLeft]⟩
  | some change => exact ⟨⟨by simp [advance], calls⟩, by simp [advance, promptTurnsLeft]⟩

theorem isDone_of_promptTurnsLeft
    {thread : Thread}
    (nothing : thread.promptTurnsLeft = 0) : thread.isDone = true := by
  have pending_eq : thread.pending.toList.length = thread.pending.elim 0 fun _ => 1 := by
    cases thread.pending <;> rfl
  rw [promptTurnsLeft, pending_eq] at nothing
  exact Thread.isDone_of_needs (fun _ => Nat.one_pos) Nat.two_pos nothing

end Thread

/-- A call that is no promotion takes effect in its first turn. -/
theorem Call.begin_of_isPrompt
    {call : Call}
    (isPrompt : call.isPrompt = true)
    (word : Word) : call.begin word = call.outcome word := by
  rcases call.begin_cases word with settled | ⟨target, rfl, -⟩
  · exact settled
  · contradiction

/-- In its turn such a thread uses one of the turns that it needs. -/
theorem promptTurnsLeft_turn_le
    {thread : Thread}
    (isPrompt : thread.IsPrompt)
    (shared : Shared) :
    (turn shared thread).2.IsPrompt ∧
      (turn shared thread).2.promptTurnsLeft ≤ thread.promptTurnsLeft - 1 := by
  obtain ⟨pending, calls, answers⟩ := thread
  rcases pending with _ | ⟨⟨target, seen⟩ | ⟨change, answer⟩⟩
  · cases calls with
    | nil => exact ⟨isPrompt, Nat.zero_le _⟩
    | cons call rest =>
        obtain ⟨call_prompt, rest_prompt⟩ := List.forall_mem_cons.1 isPrompt.calls
        have advanced := Thread.isPrompt_advance_replaced ⟨none, rest, answers⟩ rest_prompt
          shared.word (call.effect shared.word).word (call.effect shared.word).answer
        simp only [turn, Call.begin_of_isPrompt call_prompt, Call.outcome]
        refine ⟨advanced.1, advanced.2.trans ?_⟩
        simp only [Thread.promptTurnsLeft, Option.toList_none, List.length_nil, List.length_cons]
        omega
  · exact absurd rfl (isPrompt.pending target seen)
  · refine ⟨⟨by simp [turn, Thread.advance], isPrompt.calls⟩, ?_⟩
    simp [turn, Thread.advance, Thread.promptTurnsLeft]

/-- Calls that are no promotions have all returned when every thread has had two turns for each of
its calls, however the turns are mixed. -/
theorem System.isDone_of_isPrompt
    (word : Word)
    {programs : List (List Call)}
    {schedule : List Nat}
    (prompt : ∀ call ∈ programs.flatten, call.isPrompt = true)
    (enough : ∀ number, 2 * (programs.getD number []).length ≤ schedule.count number) :
    ((start word programs).run schedule).isDone = true := by
  have start_prompt (number : Nat) : ((start word programs).thread number).IsPrompt := by
    rw [thread_start]
    refine ⟨by simp [Thread.new], ?_⟩
    intro call member
    cases present : programs[number]? with
    | none => simp [Thread.new, List.getD_eq_getElem?_getD, present] at member
    | some program =>
        refine prompt call (List.mem_flatten.2 ⟨program, List.mem_of_getElem? present, ?_⟩)
        simpa [Thread.new, List.getD_eq_getElem?_getD, present] using member
  have step_prompt (system : System) (isPrompt : ∀ number, (system.thread number).IsPrompt)
      (number other : Nat) : ((system.step number).thread other).IsPrompt := by
    by_cases same : other = number
    · subst same
      rw [thread_step_self]
      exact (promptTurnsLeft_turn_le (isPrompt other) system.shared).1
    · rw [thread_step_of_ne same]
      exact isPrompt other
  refine isDone_of_thread fun number => Thread.isDone_of_promptTurnsLeft ?_
  have run_le := needs_run_le step_prompt
    (fun system isPrompt number => (promptTurnsLeft_turn_le (isPrompt number) system.shared).2)
    start_prompt schedule number
  have start_eq :
      ((start word programs).thread number).promptTurnsLeft =
        2 * (programs.getD number []).length := by
    rw [thread_start]
    exact Nat.zero_add _
  have enough_turns := enough number
  omega

end Cell
end ObjectStatus
