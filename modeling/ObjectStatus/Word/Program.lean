import ObjectStatus.Word

/-!
# Programs on status words

A program is a list of steps, each of which replaces the word at hand: bits are set, cleared or
kept, or the whole word is turned over. A step that sets bits has several spellings, in place or by
value, and the program remembers which one was written.
-/

namespace ObjectStatus
namespace Word

/-- One step on a word. -/
inductive Step
  /-- Set the bits in place. -/
  | insert (bits : Word)
  /-- Clear the bits in place. -/
  | remove (bits : Word)
  /-- Take the union with the bits. -/
  | union (bits : Word)
  /-- Take the union by the operator. -/
  | or (bits : Word)
  /-- Take the union by the operator, in place. -/
  | orInPlace (bits : Word)
  /-- Keep only the bits. -/
  | and (bits : Word)
  /-- Take the union with the bits of a code. -/
  | orCode (code : Code)
  /-- Turn every bit over. -/
  | complement

namespace Step

/-- The word after the step. -/
def apply : Step → Word → Word
  | .insert bits, word => word.insert bits
  | .remove bits, word => word.remove bits
  | .union bits, word => word.union bits
  | .or bits, word => word ||| bits
  | .orInPlace bits, word => word.insert bits
  | .and bits, word => word &&& bits
  | .orCode code, word => word ||| code.word
  | .complement, word => ~~~word

end Step

/-- The word after every step of a program. -/
def run : List Step → Word → Word
  | [], word => word
  | step :: rest, word => run rest (step.apply word)

/-- The words that a program goes through, one after each step. -/
def trace : List Step → Word → List Word
  | [], _ => []
  | step :: rest, word => step.apply word :: trace rest (step.apply word)

@[simp] theorem run_nil (word : Word) : run [] word = word := rfl

@[simp] theorem run_cons
    (step : Step)
    (rest : List Step)
    (word : Word) :
    run (step :: rest) word = run rest (step.apply word) := rfl

@[simp] theorem trace_nil (word : Word) : trace [] word = [] := rfl

@[simp] theorem trace_cons
    (step : Step)
    (rest : List Step)
    (word : Word) :
    trace (step :: rest) word = step.apply word :: trace rest (step.apply word) := rfl

/-- A program leaves one word for each of its steps. -/
@[simp] theorem length_trace
    (program : List Step)
    (word : Word) :
    (trace program word).length = program.length := by
  induction program generalizing word with
  | nil => rfl
  | cons step rest hypothesis => simp [hypothesis]

end Word
end ObjectStatus
