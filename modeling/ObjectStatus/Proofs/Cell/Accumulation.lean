import ObjectStatus.Proofs.Cell.Completion

/-!
# Accumulation in any order

Calls that only add bits come to the same in every order, and from any number of threads, as long
as nobody inserts the bit of an expired object: the last word has the bits of the first, the
inserted bits and the bits of the stages that were promoted to, and the answers differ in nothing
but the bits that had gathered by then. With the bit of an expired object the order matters, because
promotions are refused from then on; but what was inserted is never missing, and nothing is there
that was not asked for.
-/

namespace ObjectStatus
namespace Cell

/-- The bits that a call asks to have set. -/
def Call.bits : Call → Word
  | .insert bits => bits
  | .promote target => if target.isLifecycle then target.word else .empty
  | .set _ => .empty
  | .transition _ _ => .empty

/-- The call asks for something that is done as long as the object has not expired. -/
def Call.isAcceptable : Call → Bool
  | .promote target => target.isLifecycle
  | _ => true

theorem bits_promote_of_mem
    {target : Code}
    (member : target ∈ Code.lifecycle) : (Call.promote target).bits = target.word :=
  if_pos (List.contains_iff_mem.2 member)

theorem bits_promote_of_notMem
    {target : Code}
    (outside : target ∉ Code.lifecycle) : (Call.promote target).bits = .empty :=
  if_neg fun stage => outside (List.contains_iff_mem.1 stage)

/-- No stage has the bit of an expired object. -/
theorem isExpired_bits_promote (target : Code) :
    (Call.promote target).bits.isExpired = false := by
  cases target <;> decide

/-- The word with all bits that the calls ask to have set. -/
def gathered (word : Word) (calls : List Call) : Word :=
  calls.foldl (fun word call => word.insert call.bits) word

/-- The gathered word is the least one that contains the first word and all bits asked for. -/
theorem contains_gathered_iff
    {bound word : Word}
    {calls : List Call} :
    bound.contains (gathered word calls) = true ↔
      bound.contains word = true ∧ ∀ call ∈ calls, bound.contains call.bits = true := by
  induction calls generalizing word with
  | nil => simp [gathered]
  | cons call rest inductionHypothesis =>
      have rest_iff := @inductionHypothesis (word.insert call.bits)
      rw [Word.contains_insert_iff, and_assoc] at rest_iff
      rw [List.forall_mem_cons]
      exact rest_iff

/-- The order of the calls does not matter for what they gather. -/
theorem gathered_of_perm
    {first second : List Call}
    (same : first.Perm second)
    (word : Word) : gathered word first = gathered word second := by
  have included {first second : List Call} (same : first.Perm second) :
      (gathered word first).contains (gathered word second) = true := by
    obtain ⟨contains_word, contains_bits⟩ :=
      contains_gathered_iff.1 (gathered word first).contains_self
    refine contains_gathered_iff.2 ⟨contains_word, fun call member => ?_⟩
    exact contains_bits call (same.mem_iff.2 member)
  exact Word.eq_of_contains (included same) (included same.symm)

/-- Neither the word nor anything that is inserted has the bit of an expired object. -/
structure NeverExpires (word : Word) (calls : List Call) : Prop where
  start : word.isExpired = false
  inserted : ∀ bits, .insert bits ∈ calls → bits.isExpired = false

/-- How a call that only adds is answered while the object has not expired. -/
inductive Adds : Call → Answer → Prop
  /-- An insertion succeeds with a word that has the bits. -/
  | inserted {bits after : Word} :
      after.contains bits = true →
      Adds (.insert bits) (.current after)
  /-- A promotion to a stage succeeds with a word that has the bits of the stage. -/
  | promoted {target : Code} {after : Word} :
      target ∈ Code.lifecycle →
      after.contains target.word = true →
      Adds (.promote target) (.current after)
  /-- Every other promotion is refused. -/
  | refused {target : Code} :
      target ∉ Code.lifecycle →
      Adds (.promote target) (.refused (.notLifecycle target))

theorem Adds.succeeded_eq
    {call : Call}
    {answer : Answer}
    (adds : Adds call answer) : answer.succeeded = call.isAcceptable := by
  cases adds with
  | inserted => rfl
  | promoted member => exact (List.contains_iff_mem.2 member).symm
  | refused outside =>
      have no_stage : Code.isLifecycle _ = false :=
        Bool.eq_false_iff.2 fun stage => outside (List.contains_iff_mem.1 stage)
      exact no_stage.symm

/-! ## One operation -/

/-- While the object has not expired, a call that only adds sets the bits that it asks for. -/
theorem adds_of_specified
    {call : Call}
    {before after : Word}
    {answer : Answer}
    (specified : Specified call before answer after)
    (adding : call.isAdding = true)
    (alive : before.isExpired = false) :
    after = before.insert call.bits ∧ Adds call answer := by
  cases specified with
  | set => contradiction
  | insert bits => exact ⟨rfl, .inserted (Word.contains_insert_bits before bits)⟩
  | moved => contradiction
  | mismatched => contradiction
  | notLifecycle _ outside =>
      rw [bits_promote_of_notMem outside, Word.insert_empty]
      exact ⟨rfl, .refused outside⟩
  | expired _ gone =>
      rw [alive] at gone
      contradiction
  | promoted member =>
      rw [bits_promote_of_mem member]
      exact ⟨rfl, .promoted member (Word.contains_insert_bits _ _)⟩

/-- Expired or not, it sets no other bits. -/
theorem contains_of_specified
    {call : Call}
    {before after bound : Word}
    {answer : Answer}
    (specified : Specified call before answer after)
    (adding : call.isAdding = true)
    (contains_before : bound.contains before = true)
    (contains_bits : bound.contains call.bits = true) : bound.contains after = true := by
  cases specified with
  | set => contradiction
  | insert bits => exact Word.contains_insert_iff.2 ⟨contains_before, contains_bits⟩
  | moved => contradiction
  | mismatched => contradiction
  | notLifecycle => exact contains_before
  | expired => exact contains_before
  | promoted member =>
      rw [bits_promote_of_mem member] at contains_bits
      exact Word.contains_insert_iff.2 ⟨contains_before, contains_bits⟩

/-- What it inserts is there afterwards. -/
theorem contains_bits_of_specified
    {before after bits : Word}
    {answer : Answer}
    (specified : Specified (.insert bits) before answer after) : after.contains bits = true := by
  cases specified with
  | insert => exact Word.contains_insert_bits before bits

/-! ## All operations -/

/-- While the object has not expired, operations that only add gather all the bits that they ask
for. -/
theorem gathered_of_replays
    {before after : Word}
    {operations : List Operation}
    (replays : Replays before operations after)
    (adding : ∀ operation ∈ operations, operation.call.isAdding = true)
    (alive : before.isExpired = false)
    (bits_alive : ∀ operation ∈ operations, operation.call.bits.isExpired = false) :
    after = gathered before (operations.map (·.call)) ∧
      ∀ operation ∈ operations, Adds operation.call operation.answer := by
  induction replays with
  | nil word => exact ⟨rfl, by simp⟩
  | @cons before middle after operation rest specified _ inductionHypothesis =>
      rw [List.forall_mem_cons] at adding bits_alive
      obtain ⟨rfl, adds⟩ := adds_of_specified specified adding.1 alive
      have still_alive : (before.insert operation.call.bits).isExpired = false := by
        rw [Word.isExpired_insert, alive, bits_alive.1, Bool.or_false]
      obtain ⟨after_eq, rest_adds⟩ :=
        inductionHypothesis adding.2 still_alive bits_alive.2
      exact ⟨after_eq, List.forall_mem_cons.2 ⟨adds, rest_adds⟩⟩

/-- Expired or not, they set no other bits. -/
theorem gathered_contains_of_replays
    {before after bound : Word}
    {operations : List Operation}
    (replays : Replays before operations after)
    (adding : ∀ operation ∈ operations, operation.call.isAdding = true)
    (contains_before : bound.contains before = true)
    (contains_bits : ∀ operation ∈ operations, bound.contains operation.call.bits = true) :
    bound.contains after = true := by
  induction replays with
  | nil word => exact contains_before
  | cons specified _ inductionHypothesis =>
      rw [List.forall_mem_cons] at adding contains_bits
      exact inductionHypothesis adding.2
        (contains_of_specified specified adding.1 contains_before contains_bits.1)
        contains_bits.2

/-- Expired or not, what they insert is kept. -/
theorem contains_bits_of_replays
    {before after bits : Word}
    {operations : List Operation}
    (replays : Replays before operations after)
    (adding : ∀ operation ∈ operations, operation.call.isAdding = true)
    (inserted : .insert bits ∈ operations.map (·.call)) : after.contains bits = true := by
  induction replays with
  | nil word => contradiction
  | @cons before middle after operation rest specified restReplays inductionHypothesis =>
      rw [List.forall_mem_cons] at adding
      rw [List.map_cons, List.mem_cons] at inserted
      rcases inserted with now | later
      · rw [← now] at specified
        exact Word.contains_trans (contains_of_replays restReplays adding.2)
          (contains_bits_of_specified specified)
      · exact inductionHypothesis adding.2 later

/-- What these calls come to when they only add: the answers to the programs that they were shared
out to, and the last word. -/
structure Accumulates
    (word : Word)
    (calls : List Call)
    (programs : List (List Call))
    (answers : List (List Answer))
    (last : Word) : Prop where
  /-- The bits of the first word are never missing. -/
  contains_start : last.contains word = true
  /-- What was inserted is never missing either. -/
  contains_inserted : ∀ bits, .insert bits ∈ calls → last.contains bits = true
  /-- There are no bits that were not there and that no call has asked for. -/
  gathered_contains : (gathered word calls).contains last = true
  /-- The last word has all these bits, if the object never expires. -/
  word_eq : NeverExpires word calls → last = gathered word calls
  /-- Then insertions and promotions to a stage succeed with what they asked for, and the other
  promotions are refused. -/
  answers_fit : NeverExpires word calls → List.Forall₂ (List.Forall₂ Adds) programs answers
  /-- Hence the number of successes depends on the calls only. -/
  successes_eq : NeverExpires word calls →
    answers.flatten.countP Answer.succeeded = calls.countP Call.isAcceptable

/-- Calls that fit their answers succeed as often as they are acceptable. -/
theorem countP_succeeded
    {calls : List Call}
    {answers : List Answer}
    (adds : List.Forall₂ Adds calls answers) :
    answers.countP Answer.succeeded = calls.countP Call.isAcceptable := by
  induction adds with
  | nil => rfl
  | cons first _ inductionHypothesis =>
      rw [List.countP_cons, List.countP_cons, inductionHypothesis, first.succeeded_eq]

/-- Operations that replay the calls in some order accumulate. -/
theorem accumulates_of_replays
    {word last : Word}
    {calls : List Call}
    {operations : List Operation}
    {programs : List (List Call)}
    {answers : List (List Answer)}
    (replays : Replays word operations last)
    (adding : ∀ call ∈ calls, call.isAdding = true)
    (same_calls : (operations.map (·.call)).Perm calls)
    (same_programs : programs.flatten.Perm calls)
    (fits : (∀ operation ∈ operations, Adds operation.call operation.answer) →
      List.Forall₂ (List.Forall₂ Adds) programs answers) :
    Accumulates word calls programs answers last := by
  have call_mem {operation : Operation} (member : operation ∈ operations) :
      operation.call ∈ calls := same_calls.subset (List.mem_map_of_mem member)
  have operations_adding : ∀ operation ∈ operations, operation.call.isAdding = true :=
    fun operation member => adding operation.call (call_mem member)
  have outcome (alive : NeverExpires word calls) :
      last = gathered word calls ∧
        ∀ operation ∈ operations, Adds operation.call operation.answer := by
    have bits_alive : ∀ operation ∈ operations, operation.call.bits.isExpired = false := by
      intro operation member
      have call_adding := operations_adding operation member
      have inCalls := call_mem member
      cases asked : operation.call with
      | insert bits => exact alive.inserted bits (asked ▸ inCalls)
      | promote target => exact isExpired_bits_promote target
      | set code => simp [asked, Call.isAdding] at call_adding
      | transition source target => simp [asked, Call.isAdding] at call_adding
    rw [← gathered_of_perm same_calls]
    exact gathered_of_replays replays operations_adding alive.start bits_alive
  obtain ⟨contains_word, contains_bits⟩ :=
    contains_gathered_iff.1 (gathered word calls).contains_self
  exact
    { contains_start := contains_of_replays replays operations_adding
      contains_inserted := fun bits inserted =>
        contains_bits_of_replays replays operations_adding (same_calls.mem_iff.2 inserted)
      gathered_contains :=
        gathered_contains_of_replays replays operations_adding contains_word
          fun operation member => contains_bits operation.call (call_mem member)
      word_eq := fun alive => (outcome alive).1
      answers_fit := fun alive => fits (outcome alive).2
      successes_eq := by
        intro alive
        rw [countP_succeeded (List.rel_flatten (fits (outcome alive).2)),
          same_programs.countP_eq] }

/-- Calls that only add come to the same however they are ordered. -/
structure AccumulatesInAnyOrder (word : Word) (calls : List Call) : Prop where
  /-- A caller that has the cell to itself makes them in any order. -/
  alone : ∀ order : List Call, order.Perm calls →
    Accumulates word calls [order]
      [(operationsAlone 0 order word).map (·.answer)] (wordAfter order word)
  /-- Any number of threads make them, in whatever order they take their turns. -/
  shared : ∀ (programs : List (List Call)) (schedule : List Nat),
    programs.flatten.Perm calls →
    ((System.start word programs).run schedule).isDone = true →
    Accumulates word calls programs
      (((System.start word programs).run schedule).threads.map (·.answers))
      ((System.start word programs).run schedule).shared.word
  /-- The calls of the threads return, in a bounded number of turns each. -/
  returns : ∀ (programs : List (List Call)) (schedule : List Nat),
    programs.flatten.Perm calls →
    (∀ number, turnsPerCall * (programs.getD number []).length ≤ schedule.count number) →
    ((System.start word programs).run schedule).isDone = true

/-- Insertions and promotions accumulate in any order. -/
theorem accumulatesInAnyOrder
    (word : Word)
    (calls : List Call)
    (adding : ∀ call ∈ calls, call.isAdding = true) : AccumulatesInAnyOrder word calls where
  alone := by
    intro order same
    refine accumulates_of_replays (replays_operationsAlone 0 order word) adding ?_ ?_ ?_
    · rwa [map_call_operationsAlone]
    · simpa using same
    · intro adds
      have order_fits := forall₂_of_operations adds
      rw [map_call_operationsAlone] at order_fits
      exact .cons order_fits .nil
  shared := by
    intro programs schedule same done
    exact accumulates_of_replays
      (System.replays_linearization (System.isSound_start word programs) schedule)
      adding ((System.perm_map_call_linearization done).trans same) same
      (System.forall₂_answers_of_linearization done)
  returns := by
    intro programs schedule same enough
    exact System.isDone_of_turnsPerCall word
      (fun call member => adding call (same.subset member)) enough

/-- A promotion to a stage, one to a code that is no stage, and an insertion accumulate. -/
theorem accumulatesInAnyOrder_of_three :
    (∀ call ∈ [Call.promote .ready, .promote .any, .insert .typeKnown],
      call.isAdding = true) ∧
    AccumulatesInAnyOrder Code.staged.word
      [.promote .ready, .promote .any, .insert .typeKnown] :=
  ⟨by decide, accumulatesInAnyOrder _ _ (by decide)⟩

/-- The order matters when the bit of an expired object is inserted. -/
example :
    wordAfter [.promote .ready, .insert .expiredFlag] Code.staged.word = ⟨0x37⟩ ∧
      wordAfter [.insert .expiredFlag, .promote .ready] Code.staged.word = ⟨0x03⟩ := by
  decide

end Cell
end ObjectStatus
