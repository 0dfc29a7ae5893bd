/-!
# Notes along a run

Whatever runs takes one step for each of its inputs, and of every step something is noted: an
effect, the calls on a log, the change of a word. The notes of a run are those of its steps, one
after another. What is true of all such notes is said here once.
-/

namespace ObjectStatus

variable {State Input Note : Type}

/-- The notes of a run from a state on are those of its steps, one after another. -/
structure IsNotedAlong
    (next : State → Input → State)
    (note : State → Input → List Note)
    (notes : State → List Input → List Note) : Prop where
  /-- There is nothing to note before the first step. -/
  nil : ∀ state, notes state [] = []
  /-- The notes of a step stand before those of the rest of the run. -/
  cons : ∀ state input rest,
    notes state (input :: rest) = note state input ++ notes (next state input) rest

namespace IsNotedAlong

variable {next : State → Input → State} {note : State → Input → List Note}
  {notes : State → List Input → List Note}

/-- A run may be cut in two, and its notes with it. -/
theorem append
    (noted : IsNotedAlong next note notes)
    (state : State)
    (first second : List Input) :
    notes state (first ++ second) = notes state first ++ notes (first.foldl next state) second := by
  induction first generalizing state with
  | nil => rw [noted.nil, List.nil_append, List.nil_append, List.foldl_nil]
  | cons input rest inductionHypothesis =>
      rw [List.cons_append, noted.cons, inductionHypothesis, noted.cons, List.append_assoc,
        List.foldl_cons]

/-- What holds of every note of every step holds of every note of a run. -/
theorem of_mem
    (noted : IsNotedAlong next note notes)
    {holds : Note → Prop}
    (holds_step : ∀ state input, ∀ found ∈ note state input, holds found)
    {state : State}
    {inputs : List Input}
    {found : Note}
    (member : found ∈ notes state inputs) : holds found := by
  induction inputs generalizing state with
  | nil =>
      rw [noted.nil] at member
      contradiction
  | cons input rest inductionHypothesis =>
      rw [noted.cons, List.mem_append] at member
      rcases member with now | later
      · exact holds_step state input found now
      · exact inductionHypothesis later

end IsNotedAlong
end ObjectStatus
