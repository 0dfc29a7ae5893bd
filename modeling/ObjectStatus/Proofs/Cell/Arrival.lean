import ObjectStatus.Proofs.Cell.Answered
import ObjectStatus.Proofs.Cell.Completion
import ObjectStatus.Proofs.Cell.Handover

/-!
# One winner for each arrival

Callers that find a cell at the same code may all try to move it on from there, each to a code of
its own. The word of the cell leaves a code as often as it has arrived there, counting the word at
the start as an arrival if it is that code and not counting the last arrival if the word is still
there. So no more of the calls can succeed than there have been arrivals. When such calls compete
and nobody else uses the cell, exactly one of them wins, and the others get to see where it has
taken the word.
-/

namespace ObjectStatus
namespace Cell

/-- The changes of the word during a sequence of calls. -/
def changesAlone : List Call → Word → List Transition
  | [], _ => []
  | call :: rest, word =>
      (call.change? word).toList ++ changesAlone rest (call.effect word).word

/-- An answered call has exchanged the code `source` for another one. -/
def movesOn (source : Code) : Call × Answer → Bool
  | (.transition expected target, .moved) => decide (expected = source ∧ target ≠ source)
  | _ => false

/-- The call tries to exchange the code `source` for another one. -/
def Call.Contends (source : Code) (call : Call) : Prop :=
  ∃ target, target ≠ source ∧ call = .transition source target

/-- How a call is answered that tries to exchange the code `source` for another one, when the
exchange for `target` wins. -/
inductive Contest (source target : Code) : Call → Answer → Prop
  /-- The call has won. -/
  | won : Contest source target (.transition source target) .moved
  /-- The call has lost, and is told where the winner has taken the word. -/
  | lost (wanted : Code) :
      Contest source target (.transition source wanted)
        (.refused (.mismatch source target.word))

theorem movesOn_iff
    {source : Code}
    {made : Call × Answer} :
    movesOn source made = true ↔
      ∃ target, target ≠ source ∧ made = (.transition source target, .moved) := by
  constructor
  · intro moves
    unfold movesOn at moves
    split at moves
    · obtain ⟨rfl, differs⟩ := of_decide_eq_true moves
      exact ⟨_, differs, rfl⟩
    · contradiction
  · rintro ⟨target, differs, rfl⟩
    exact decide_eq_true ⟨rfl, differs⟩

/-! ## Arrivals and departures -/

@[simp] theorem changesAlone_cons
    (call : Call)
    (rest : List Call)
    (word : Word) :
    changesAlone (call :: rest) word =
      (call.change? word).toList ++ changesAlone rest (call.effect word).word := rfl

/-- The changes of a sequence of calls lead from the word before it to the word after it. -/
theorem isTrail_changesAlone (calls : List Call) (word : Word) :
    Transition.IsTrail word (changesAlone calls word) (wordAfter calls word) := by
  induction calls generalizing word with
  | nil => rfl
  | cons call rest inductionHypothesis =>
      rw [changesAlone_cons, Transition.isTrail_append]
      exact ⟨(call.effect word).word, Transition.isTrail_ofWords? _ _,
        inductionHypothesis (call.effect word).word⟩

/-- Each operation that exchanges the code for another one changes the word, and changes it from
there. -/
theorem countP_movesOn_le
    {before after : Word}
    {operations : List Operation}
    (replays : Replays before operations after)
    (source : Code) :
    operations.countP (fun operation => movesOn source (operation.call, operation.answer)) ≤
      (changesAlone (operations.map (·.call)) before).countP
        fun transition => transition.source = source.word := by
  induction replays with
  | nil word => exact Nat.le_refl 0
  | @cons before middle after operation rest specified _ inductionHypothesis =>
      have effect_eq := specified_iff.1 specified
      rw [List.map_cons, changesAlone_cons, Call.change?, effect_eq, List.countP_cons,
        List.countP_append]
      dsimp only
      by_cases moves : movesOn source (operation.call, operation.answer) = true
      · obtain ⟨target, differs, made_eq⟩ := movesOn_iff.1 moves
        obtain ⟨call_eq, answer_eq⟩ := Prod.mk.inj made_eq
        rw [call_eq, answer_eq] at specified
        cases specified
        have changed :
            Transition.ofWords? source.word target.word = some ⟨source.word, target.word⟩ :=
          Transition.ofWords?_eq_some_iff.2 ⟨Code.word_ne_word (Ne.symm differs), rfl⟩
        rw [if_pos moves, changed]
        simp only [Option.toList_some, List.countP_singleton, decide_true, if_true]
        omega
      · rw [if_neg moves]
        omega

/-- What leaves a code has arrived there, or was there at the start. -/
theorem countP_movesOn_le_arrivals
    {before after : Word}
    {operations : List Operation}
    {changes : List Transition}
    (replays : Replays before operations after)
    (changes_eq : changes = changesAlone (operations.map (·.call)) before)
    (source : Code) :
    operations.countP (fun operation => movesOn source (operation.call, operation.answer)) ≤
      (if before = source.word then 1 else 0) +
        changes.countP fun transition => transition.target = source.word := by
  subst changes_eq
  have departures_le := countP_movesOn_le replays source
  have balance := (isTrail_changesAlone (operations.map (·.call)) before).countP_target_add
    source.word
  omega

/-- The changes of a schedule are those of its operations, in the order in which they take
effect. -/
theorem System.changes_eq_changesAlone
    {system : System}
    (sound : system.IsSound)
    (schedule : List Nat) :
    system.changes schedule =
      changesAlone ((system.linearization schedule).map (·.call)) system.shared.word := by
  induction schedule generalizing system with
  | nil => rfl
  | cons number rest inductionHypothesis =>
      have spec := turnSpec system.shared (sound number)
      rw [changes_cons, linearization_cons, inductionHypothesis (sound.step number), shared_step]
      unfold takesEffect?
      cases effective : (system.thread number).takesEffect? system.shared.word with
      | none =>
          have word_eq := (spec.rests effective).word_eq
          dsimp only at word_eq
          rw [word_eq, Transition.ofWords?_self]
          rfl
      | some call =>
          have word_eq := (spec.settles call effective).word_eq
          dsimp only at word_eq
          rw [word_eq]
          rfl

/-! ## Competition -/

/-- Once the word has left the code, all that try to move it on from there are told where it is. -/
theorem contest_of_left
    {source target : Code}
    {before after : Word}
    {operations : List Operation}
    (replays : Replays before operations after)
    (contending : ∀ operation ∈ operations, operation.call.Contends source)
    (left : target ≠ source)
    (before_eq : before = target.word) :
    after = target.word ∧
      changesAlone (operations.map (·.call)) before = [] ∧
      operations.countP (fun operation => operation.answer.succeeded) = 0 ∧
      ∀ operation ∈ operations, Contest source target operation.call operation.answer := by
  induction replays with
  | nil word => exact ⟨before_eq, rfl, rfl, by simp⟩
  | @cons before middle after operation rest specified _ inductionHypothesis =>
      obtain ⟨call_contends, rest_contend⟩ := List.forall_mem_cons.1 contending
      obtain ⟨wanted, -, call_eq⟩ := call_contends
      have effect_eq := specified_iff.1 specified
      have differs : before ≠ source.word := by
        rw [before_eq]
        exact Code.word_ne_word left
      have refused :
          operation.call.effect before = ⟨before, .refused (.mismatch source before)⟩ := by
        rw [call_eq]
        exact if_neg differs
      obtain ⟨rfl, answer_eq⟩ := Effect.mk.inj (refused.symm.trans effect_eq)
      obtain ⟨after_eq, changes_eq, successes_eq, contest⟩ :=
        inductionHypothesis rest_contend before_eq
      refine ⟨after_eq, ?_, ?_, List.forall_mem_cons.2 ⟨?_, contest⟩⟩
      · rw [List.map_cons, changesAlone_cons, Call.change?, effect_eq, changes_eq,
          Transition.ofWords?_self]
        rfl
      · rw [List.countP_cons, successes_eq, ← answer_eq]
        rfl
      · rw [call_eq, ← answer_eq, before_eq]
        exact .lost wanted

/-- Of operations that try to move the word on from where it is, the first one wins. -/
theorem exists_contest
    {source : Code}
    {after : Word}
    {operations : List Operation}
    (replays : Replays source.word operations after)
    (contending : ∀ operation ∈ operations, operation.call.Contends source)
    (nonempty : operations ≠ []) :
    ∃ target,
      after = target.word ∧
      changesAlone (operations.map (·.call)) source.word = [⟨source.word, target.word⟩] ∧
      operations.countP (fun operation => operation.answer.succeeded) = 1 ∧
      ∀ operation ∈ operations, Contest source target operation.call operation.answer := by
  generalize before_eq : source.word = before at replays
  cases replays with
  | nil => contradiction
  | @cons _ middle _ operation rest specified restReplays =>
      subst before_eq
      obtain ⟨⟨target, left, call_eq⟩, rest_contend⟩ := List.forall_mem_cons.1 contending
      have effect_eq := specified_iff.1 specified
      have moved : operation.call.effect source.word = ⟨target.word, .moved⟩ := by
        rw [call_eq]
        exact if_pos rfl
      obtain ⟨middle_eq, answer_eq⟩ := Effect.mk.inj (moved.symm.trans effect_eq)
      obtain ⟨after_eq, changes_eq, successes_eq, contest⟩ :=
        contest_of_left restReplays rest_contend left middle_eq.symm
      refine ⟨target, after_eq, ?_, ?_, List.forall_mem_cons.2 ⟨?_, contest⟩⟩
      · have changed :
            Transition.ofWords? source.word target.word = some ⟨source.word, target.word⟩ :=
          Transition.ofWords?_eq_some_iff.2 ⟨Code.word_ne_word (Ne.symm left), rfl⟩
        rw [List.map_cons, changesAlone_cons, Call.change?, effect_eq, changes_eq, ← middle_eq,
          changed]
        rfl
      · rw [List.countP_cons, successes_eq, ← answer_eq]
        rfl
      · rw [call_eq, ← answer_eq]
        exact .won

/-- What a competition for the code `source` comes to when the exchange for `target` wins: the
answers to the programs that compete, the changes of the word and the last word. -/
structure IsWon
    (source target : Code)
    (programs : List (List Call))
    (answers : List (List Answer))
    (changes : List Transition)
    (last : Word) : Prop where
  /-- Exactly one call succeeds. -/
  successes_eq : (answered programs answers).countP (fun made => made.2.succeeded) = 1
  /-- The one that succeeds is an exchange for `target`, and every other call is told that it has
  found `target` where it expected `source`. -/
  answers_fit : List.Forall₂ (List.Forall₂ (Contest source target)) programs answers
  /-- Only the winner changes the word. -/
  changes_eq : changes = [⟨source.word, target.word⟩]
  /-- The word stays where the winner has taken it. -/
  last_eq : last = target.word

/-- A cell that starts with this word is moved on from the code no more often than it arrives
there. -/
structure AdmitsOneWinner (word : Word) (source : Code) : Prop where
  /-- However a caller that has the cell to itself uses it. -/
  alone_le : ∀ calls : List Call,
    (answered [calls] [(operationsAlone 0 calls word).map (·.answer)]).countP (movesOn source) ≤
      (if word = source.word then 1 else 0) +
        (changesAlone calls word).countP fun transition => transition.target = source.word
  /-- However threads that share the cell use it, at every moment of every schedule. -/
  shared_le : ∀ (programs : List (List Call)) (schedule : List Nat),
    (answered programs
        (((System.start word programs).run schedule).threads.map (·.answers))).countP
          (movesOn source) ≤
      (if word = source.word then 1 else 0) +
        ((System.start word programs).changes schedule).countP
          fun transition => transition.target = source.word
  /-- One of the calls of a caller wins, if all of them try to move the cell on from where it
  is. -/
  alone_won : word = source.word → ∀ calls : List Call, calls ≠ [] →
    (∀ call ∈ calls, call.Contends source) →
    ∃ target, IsWon source target [calls] [(operationsAlone 0 calls word).map (·.answer)]
      (changesAlone calls word) (wordAfter calls word)
  /-- One of the calls of any number of threads wins in the same way, in whatever order they take
  their turns. -/
  shared_won : word = source.word → ∀ (programs : List (List Call)) (schedule : List Nat),
    programs.flatten ≠ [] →
    (∀ call ∈ programs.flatten, call.Contends source) →
    ((System.start word programs).run schedule).isDone = true →
    ∃ target, IsWon source target programs
      (((System.start word programs).run schedule).threads.map (·.answers))
      ((System.start word programs).changes schedule)
      ((System.start word programs).run schedule).shared.word
  /-- The calls of the threads return, in two turns each. -/
  returns : ∀ (programs : List (List Call)) (schedule : List Nat),
    (∀ call ∈ programs.flatten, call.Contends source) →
    (∀ number, 2 * (programs.getD number []).length ≤ schedule.count number) →
    ((System.start word programs).run schedule).isDone = true

/-- Every cell has one winner for each arrival at a code. -/
theorem admitsOneWinner (word : Word) (source : Code) : AdmitsOneWinner word source where
  alone_le := by
    intro calls
    have bound := countP_movesOn_le_arrivals (replays_operationsAlone 0 calls word) rfl source
    rw [map_call_operationsAlone] at bound
    have answered_eq := answered_operations (operationsAlone 0 calls word)
    rw [map_call_operationsAlone] at answered_eq
    rw [answered_eq, List.countP_map]
    exact bound
  shared_le := by
    intro programs schedule
    have sound := System.isSound_start word programs
    refine (System.countP_answered_le word programs schedule (movesOn source)).trans ?_
    exact countP_movesOn_le_arrivals (System.replays_linearization sound schedule)
      (System.changes_eq_changesAlone sound schedule) source
  alone_won := by
    rintro rfl calls nonempty contending
    have replays := replays_operationsAlone 0 calls source.word
    have operations_contend :
        ∀ operation ∈ operationsAlone 0 calls source.word, operation.call.Contends source := by
      intro operation member
      have call_mem := List.mem_map_of_mem (f := (·.call)) member
      rw [map_call_operationsAlone] at call_mem
      exact contending operation.call call_mem
    have operations_nonempty : operationsAlone 0 calls source.word ≠ [] := by
      intro empty
      have calls_eq := map_call_operationsAlone 0 calls source.word
      rw [empty] at calls_eq
      exact nonempty calls_eq.symm
    obtain ⟨target, last_eq, changes_eq, successes_eq, contest⟩ :=
      exists_contest replays operations_contend operations_nonempty
    have answered_eq := answered_operations (operationsAlone 0 calls source.word)
    have fits := forall₂_of_operations contest
    rw [map_call_operationsAlone] at answered_eq fits changes_eq
    refine ⟨target, ?_, .cons fits .nil, changes_eq, last_eq⟩
    rw [answered_eq, List.countP_map]
    exact successes_eq
  shared_won := by
    rintro rfl programs schedule nonempty contending done
    have sound := System.isSound_start source.word programs
    have same_calls := System.perm_map_call_linearization done
    have operations_contend :
        ∀ operation ∈ (System.start source.word programs).linearization schedule,
          operation.call.Contends source := by
      intro operation member
      exact contending operation.call (same_calls.subset (List.mem_map_of_mem member))
    have operations_nonempty :
        (System.start source.word programs).linearization schedule ≠ [] := by
      intro empty
      rw [empty] at same_calls
      exact nonempty same_calls.symm.eq_nil
    obtain ⟨target, last_eq, changes_eq, successes_eq, contest⟩ :=
      exists_contest (System.replays_linearization sound schedule) operations_contend
        operations_nonempty
    refine ⟨target, ?_, System.forall₂_answers_of_linearization done contest, ?_, last_eq⟩
    · rw [System.countP_answered_of_isDone done]
      exact successes_eq
    · rw [System.changes_eq_changesAlone sound]
      exact changes_eq
  returns := by
    intro programs schedule contending enough
    refine System.isDone_of_isPrompt word (fun call member => ?_) enough
    obtain ⟨target, -, rfl⟩ := contending call member
    rfl

/-- A code that has been left may be gathered again bit by bit, and then it may be left again. -/
example :
    let calls := [.transition .ready .staged, .insert ⟨0x34⟩, .transition .ready .active]
    let answers := (operationsAlone 0 calls Code.ready.word).map (·.answer)
    (answered [calls] [answers]).countP (movesOn .ready) = 2 ∧
      changesAlone calls Code.ready.word =
        [⟨Code.ready.word, Code.staged.word⟩, ⟨Code.staged.word, Code.ready.word⟩,
          ⟨Code.ready.word, Code.active.word⟩] := by
  decide

end Cell
end ObjectStatus
