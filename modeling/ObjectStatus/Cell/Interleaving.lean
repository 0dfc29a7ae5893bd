import ObjectStatus.Cell

/-!
# Cells shared by threads

Threads that use one cell at the same time take turns at its word, one atomic access in a turn. A
call to set, insert or transition changes the word in its first turn. A promotion reads the word in
its first turn and then tries to exchange what it has read for the promoted word; it tries again
from the word that it finds instead when another thread was faster. A call that has changed the
word hands its change to the log in a turn of its own, so that the order of the log need not be the
order of the changes.

A schedule is the list of the threads whose turn it is. Nothing is assumed about it.
-/

namespace ObjectStatus
namespace Cell

/-- What is left to do for a call that is under way. -/
inductive Pending
  /-- Exchange the word `seen` for the word promoted to `target`. -/
  | exchange (target : Code) (seen : Word)
  /-- Hand a change to the log and then answer. -/
  | record (change : Transition) (answer : Answer)
  deriving DecidableEq

/-- How a call stands after one of its turns. -/
inductive Progress
  | finished (answer : Answer)
  | underWay (pending : Pending)
  deriving DecidableEq

namespace Progress

/-- A call that has replaced the word `source` by `target` answers at once if the two are equal, and
records the change first if they are not. -/
def replaced
    (source target : Word)
    (answer : Answer) : Progress :=
  match Transition.ofWords? source target with
  | some change => .underWay (.record change answer)
  | none => .finished answer

/-- A promotion that has read the word `seen` is refused, has nothing to do, or goes on to the
exchange. -/
def examined
    (target : Code)
    (seen : Word) : Progress :=
  if seen.isExpired then
    .finished (.refused (.expired seen))
  else if seen.hasReached target then
    .finished (.current seen)
  else
    .underWay (.exchange target seen)

end Progress

/-- The first turn of a call: the word that it leaves and how the call stands. -/
def Call.begin : Call → Word → Word × Progress
  | .set code, word =>
      (code.word, .replaced word code.word (.previous word))
  | .insert bits, word =>
      (word.insert bits, .replaced word (word.insert bits) (.current (word.insert bits)))
  | .transition source target, word =>
      if word = source.word then
        (target.word, .replaced source.word target.word .moved)
      else
        (word, .finished (.refused (.mismatch source word)))
  | .promote target, word =>
      if target.isLifecycle then
        (word, .examined target word)
      else
        (word, .finished (.refused (.notLifecycle target)))

/-- The turn of a promotion that exchanges the word `seen` for the promoted word, or that looks
again when the word is another one by now. -/
def Call.exchange
    (target : Code)
    (seen word : Word) : Word × Progress :=
  if word = seen then
    (seen.insert target.word,
      .replaced seen (seen.insert target.word) (.current (seen.insert target.word)))
  else
    (word, .examined target word)

/-- A thread that uses the cell. -/
structure Thread where
  /-- What is left of the call under way, if there is one. -/
  pending : Option Pending
  /-- The calls that the thread has not begun, in order. -/
  calls : List Call
  /-- The answers that the thread has got, oldest first. -/
  answers : List Answer
  deriving DecidableEq

namespace Thread

/-- A thread that is about to make these calls. -/
def new (calls : List Call) : Thread :=
  ⟨none, calls, []⟩

/-- The thread has made all its calls and has got every answer. -/
def isDone (thread : Thread) : Bool :=
  thread.pending.isNone && thread.calls.isEmpty

/-- The thread after a turn of its current call. -/
def advance (thread : Thread) : Progress → Thread
  | .finished answer => { thread with pending := none, answers := thread.answers ++ [answer] }
  | .underWay pending => { thread with pending := some pending }

end Thread

/-- What the threads share. -/
structure Shared where
  /-- The word of the cell. -/
  word : Word
  /-- The changes handed to the log so far, oldest first. -/
  recorded : List Transition
  deriving DecidableEq

/-- One turn of a thread. A thread that is done lets its turn pass. -/
def turn
    (shared : Shared)
    (thread : Thread) : Shared × Thread :=
  match thread.pending with
  | some (.exchange target seen) =>
      let (word, progress) := Call.exchange target seen shared.word
      ({ shared with word := word }, thread.advance progress)
  | some (.record change answer) =>
      ({ shared with recorded := shared.recorded ++ [change] },
        thread.advance (.finished answer))
  | none =>
      match thread.calls with
      | [] => (shared, thread)
      | call :: rest =>
          let (word, progress) := call.begin shared.word
          ({ shared with word := word }, { thread with calls := rest }.advance progress)

/-- Threads that share a cell. -/
structure System where
  shared : Shared
  threads : List Thread
  deriving DecidableEq

namespace System

/-- Threads that are about to make these calls on a cell that holds this word. -/
def start
    (word : Word)
    (programs : List (List Call)) : System :=
  ⟨⟨word, []⟩, programs.map Thread.new⟩

/-- The system after a turn of the thread with this number. -/
def step
    (system : System)
    (number : Nat) : System :=
  match system.threads[number]? with
  | none => system
  | some thread =>
      let (shared, thread) := turn system.shared thread
      ⟨shared, system.threads.set number thread⟩

/-- The system after the turns of a schedule. -/
def run
    (schedule : List Nat)
    (system : System) : System :=
  schedule.foldl step system

/-- Every thread is done. -/
def isDone (system : System) : Bool :=
  system.threads.all Thread.isDone

/-- The answers that the threads have got, thread by thread. -/
def answers (system : System) : List Answer :=
  system.threads.flatMap fun thread => thread.answers

@[simp] theorem run_nil (system : System) : run [] system = system := rfl

@[simp] theorem run_cons
    (number : Nat)
    (rest : List Nat)
    (system : System) :
    run (number :: rest) system = run rest (system.step number) := rfl

/-- A schedule may be cut in two. -/
theorem run_append
    (first second : List Nat)
    (system : System) :
    run (first ++ second) system = run second (run first system) :=
  List.foldl_append

/-- No turn adds or removes a thread. -/
@[simp] theorem length_threads_step
    (system : System)
    (number : Nat) :
    (system.step number).threads.length = system.threads.length := by
  unfold step
  split <;> simp

end System

/-- The schedule in which the threads take turns in order, for this many rounds. -/
def roundRobin (threads rounds : Nat) : List Nat :=
  (List.replicate rounds (List.range threads)).flatten

/-- The outcome of calls made at the same time, one by a thread, when the threads take turns in
order. A call changes the word at most once, so a promotion is held up at most once by each of the
others: a first turn, as many exchanges as there are calls, and a turn to hand over the change are
enough for everyone. -/
def race
    (word : Word)
    (calls : List Call) : System :=
  (System.start word (calls.map fun call => [call])).run
    (roundRobin calls.length (calls.length + 2))

end Cell
end ObjectStatus
