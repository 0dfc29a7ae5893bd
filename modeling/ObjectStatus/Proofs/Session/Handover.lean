import ObjectStatus.Proofs.Cell.Alone
import ObjectStatus.Proofs.Registry.Frame
import ObjectStatus.Proofs.Session.Atomicity

/-!
# What is told of the calls on a cell

A registry makes a call on a cell at once, and it is the word before the call and the word after it
that tell which change is recorded and announced. A thread makes the call turn by turn, and hands
over the change that it has made in its own access to the word. For a cell with one caller at a time
the two come to the same: whatever else a script does, its calls on a cell leave the word, get the
answers and tell the changes of a thread that makes these calls on a cell of its own.
-/

namespace ObjectStatus
namespace Registry

/-! ## The calls on one cell -/

/-- The call that the step makes on the cell with this number, if it makes one. -/
def Step.callOn? (number : Nat) : Step → Option Cell.Call
  | .onCell cell call => if cell = number then some call else none
  | _ => none

/-- The calls that a script makes on the cell with this number. -/
def callsOn (number : Nat) (script : List Step) : List Cell.Call :=
  script.filterMap (Step.callOn? number)

/-- The moments of a script in which it calls the cell with this number. -/
def momentsOn
    (registry : Registry)
    (number : Nat)
    (script : List Step) : List Moment :=
  (registry.moments script).filter fun moment => moment.step.cell? = some number

/-- A step calls the cell, or it has nothing to do with it. -/
theorem Step.calls_or_not (number : Nat) (step : Step) :
    (∃ call, step = .onCell number call) ∨
      step.cell? ≠ some number ∧ step.callOn? number = none := by
  cases step with
  | openLog capacity => exact Or.inr ⟨nofun, rfl⟩
  | openCell code log => exact Or.inr ⟨nofun, rfl⟩
  | onCell cell call =>
      by_cases same : cell = number
      · subst same
        exact Or.inl ⟨call, rfl⟩
      · exact Or.inr ⟨fun named => same (Option.some.inj named), if_neg same⟩
  | onLog log call => exact Or.inr ⟨nofun, rfl⟩

@[simp] theorem callsOn_cons_onCell
    (number : Nat)
    (call : Cell.Call)
    (rest : List Step) :
    callsOn number (.onCell number call :: rest) = call :: callsOn number rest :=
  List.filterMap_cons_some (if_pos rfl)

@[simp] theorem momentsOn_cons_onCell
    (registry : Registry)
    (number : Nat)
    (call : Cell.Call)
    (rest : List Step) :
    registry.momentsOn number (.onCell number call :: rest) =
      ⟨registry, .onCell number call⟩ ::
        (registry.step (.onCell number call)).registry.momentsOn number rest :=
  List.filter_cons_of_pos (decide_eq_true rfl)

theorem momentsOn_cons_of_ne
    {number : Nat}
    {step : Step}
    (unnamed : step.cell? ≠ some number)
    (registry : Registry)
    (rest : List Step) :
    registry.momentsOn number (step :: rest) =
      (registry.step step).registry.momentsOn number rest :=
  List.filter_cons_of_neg (by simpa using unnamed)

/-- What the calls of a script on a cell come to: the last word, the answers, and the changes, of
which the steps tell and which the log of the cell is told. -/
structure Tells
    (registry : Registry)
    (number : Nat)
    (script : List Step)
    (last : Word)
    (answers : List Cell.Answer)
    (changes : List Transition) : Prop where
  word_eq : (registry.run script).cells[number]?.map Cell.word = some last
  replies_eq :
    (registry.momentsOn number script).map (fun moment => moment.effect.reply) =
      answers.map .answered
  changes_eq :
    (registry.momentsOn number script).flatMap (fun moment => moment.effect.change.toList) =
      changes
  recorded_eq : ∀ log, registry.logOf? number = some log →
    (registry.momentsOn number script).flatMap (fun moment =>
        TransitionLog.recorded (moment.registry.logCalls log moment.step)) =
      changes

theorem Tells.cons_onCell
    {registry : Registry}
    {number : Nat}
    {cell : Cell}
    (present : registry.cells[number]? = some cell)
    {call : Cell.Call}
    {rest : List Step}
    {last : Word}
    {answers : List Cell.Answer}
    {changes : List Transition}
    (told : (registry.step (.onCell number call)).registry.Tells number rest last answers changes) :
    registry.Tells number (.onCell number call :: rest) last
      ((call.effect cell.word).answer :: answers)
      ((call.change? cell.word).toList ++ changes) where
  word_eq := told.word_eq
  replies_eq := by
    rw [momentsOn_cons_onCell, List.map_cons, told.replies_eq, Moment.effect,
      reply_step_onCell present, List.map_cons]
  changes_eq := by
    rw [momentsOn_cons_onCell, List.flatMap_cons, told.changes_eq, Moment.effect,
      change_step_onCell present]
  recorded_eq := by
    intro log attached
    have has_log : cell.log = some log := by rwa [logOf?, present] at attached
    have still_attached : (registry.step (.onCell number call)).registry.logOf? number =
        some log := by
      rw [logOf?, cell_step_onCell present]
      exact has_log
    rw [momentsOn_cons_onCell, List.flatMap_cons, told.recorded_eq log still_attached,
      recorded_logCalls_onCell present has_log]

theorem Tells.cons_of_ne
    {registry : Registry}
    {number : Nat}
    {cell : Cell}
    (present : registry.cells[number]? = some cell)
    {step : Step}
    (unnamed : step.cell? ≠ some number)
    {rest : List Step}
    {last : Word}
    {answers : List Cell.Answer}
    {changes : List Transition}
    (told : (registry.step step).registry.Tells number rest last answers changes) :
    registry.Tells number (step :: rest) last answers changes where
  word_eq := told.word_eq
  replies_eq := by rw [momentsOn_cons_of_ne unnamed, told.replies_eq]
  changes_eq := by rw [momentsOn_cons_of_ne unnamed, told.changes_eq]
  recorded_eq := by
    intro log attached
    rw [momentsOn_cons_of_ne unnamed]
    refine told.recorded_eq log ?_
    rwa [logOf?, cell_step_of_ne present unnamed, ← present]

/-- The calls of a script on a cell come to what they do one after another. -/
theorem tells_alone
    {registry : Registry}
    {number : Nat}
    {cell : Cell}
    (present : registry.cells[number]? = some cell)
    (index : Nat)
    (script : List Step) :
    registry.Tells number script
      (Cell.wordAfter (callsOn number script) cell.word)
      ((Cell.operationsAlone index (callsOn number script) cell.word).map (·.answer))
      (Cell.changesAlone (callsOn number script) cell.word) := by
  induction script generalizing registry cell index with
  | nil =>
      have word_eq := congrArg (Option.map Cell.word) present
      exact ⟨word_eq, rfl, rfl, fun _ _ => rfl⟩
  | cons step rest inductionHypothesis =>
      rcases step.calls_or_not number with ⟨call, rfl⟩ | ⟨unnamed, uncalled⟩
      · rw [callsOn_cons_onCell]
        exact .cons_onCell present
          (inductionHypothesis (cell_step_onCell present call) (index + 1))
      · have calls_eq : callsOn number (step :: rest) = callsOn number rest :=
          List.filterMap_cons_none uncalled
        rw [calls_eq]
        exact .cons_of_ne present unnamed
          (inductionHypothesis (cell_step_of_ne present unnamed) index)

end Registry

namespace Session

/-- The moments of a script in which it calls the cell with this number. -/
def momentsOn
    (session : Session)
    (number : Nat)
    (script : List Step) : List Moment :=
  (session.moments script).filter fun moment =>
    moment.step.registry?.bind Registry.Step.cell? = some number

@[simp] theorem momentsOn_cons_onCell
    (session : Session)
    (number : Nat)
    (call : Cell.Call)
    (rest : List Step) :
    session.momentsOn number (.onCell number call :: rest) =
      ⟨session, .onCell number call⟩ ::
        (session.step (.onCell number call)).session.momentsOn number rest :=
  List.filter_cons_of_pos (decide_eq_true rfl)

theorem momentsOn_cons_of_ne
    {number : Nat}
    (session : Session)
    (step : Step)
    (unnamed : step.registry?.bind Registry.Step.cell? ≠ some number)
    (rest : List Step) :
    session.momentsOn number (step :: rest) =
      (session.step step).session.momentsOn number rest :=
  List.filter_cons_of_neg (by simpa using unnamed)

/-- What is looked up in the moments of a session is what is looked up in the moments of its
registry, if the two agree wherever the cell is called. -/
theorem flatMap_momentsOn
    {Found : Type}
    {number : Nat}
    (look : Moment → List Found)
    (lookInside : Registry.Moment → List Found)
    (agree : ∀ session call,
      look ⟨session, .onCell number call⟩ = lookInside ⟨session.registry, .onCell number call⟩)
    (session : Session)
    (script : List Step) :
    (session.momentsOn number script).flatMap look =
      (session.registry.momentsOn number (registrySteps script)).flatMap lookInside := by
  induction script generalizing session with
  | nil => rfl
  | cons step rest inductionHypothesis =>
      have rest_eq := inductionHypothesis (session.step step).session
      rw [registry_step] at rest_eq
      cases step with
      | registry step =>
          rcases step.calls_or_not number with ⟨call, rfl⟩ | ⟨unnamed, -⟩
          · have moments_eq := session.momentsOn_cons_onCell number call rest
            have inside_eq := session.registry.momentsOn_cons_onCell number call (registrySteps rest)
            calc
              _ = look ⟨session, .onCell number call⟩ ++ _ := congrArg (List.flatMap look) moments_eq
              _ = lookInside ⟨session.registry, .onCell number call⟩ ++ _ :=
                congrArg₂ (· ++ ·) (agree session call) rest_eq
              _ = _ := (congrArg (List.flatMap lookInside) inside_eq).symm
          · have moments_eq := session.momentsOn_cons_of_ne (.registry step) unnamed rest
            have inside_eq := Registry.momentsOn_cons_of_ne unnamed session.registry
              (registrySteps rest)
            rw [moments_eq, rest_eq]
            exact (congrArg (List.flatMap lookInside) inside_eq).symm
      | _ => exact rest_eq

/-- What a session shows of the calls on one of its cells is what a thread shows that makes these
calls on a cell of its own. -/
structure ShowsLoneThread
    (session : Session)
    (number : Nat)
    (script : List Step)
    (lone : Cell.System) : Prop where
  /-- The thread has made all its calls. -/
  isDone : lone.isDone = true
  /-- The word of the cell is the one that the thread leaves. -/
  word_eq : (session.run script).wordOf? number = some lone.shared.word
  /-- The replies to the calls are the answers that the thread has got. -/
  replies_eq :
    (session.momentsOn number script).map
        (fun moment => (moment.session.step moment.step).reply) =
      (lone.thread 0).answers.map .answered
  /-- The log of the cell is told by the calls what the thread has handed over. -/
  recorded_eq : ∀ log, session.registry.logOf? number = some log →
    (session.momentsOn number script).flatMap (fun moment =>
        moment.step.registry?.toList.flatMap fun step =>
          TransitionLog.recorded (moment.session.registry.logCalls log step)) =
      lone.shared.recorded
  /-- The messages that are offered are about the same changes. -/
  offered_eq :
    (session.momentsOn number script).filterMap Moment.offered? =
      lone.shared.recorded.map changeMessage

/-- Whatever a script does besides, its calls on a cell show what a thread shows that makes them
turn by turn on a cell of its own, as long as this thread has three turns for each of them. -/
theorem showsLoneThread
    {session : Session}
    {number : Nat}
    {word : Word}
    (holds : session.wordOf? number = some word)
    (script : List Step)
    {schedule : List Nat}
    (enough : 3 * (Registry.callsOn number (registrySteps script)).length ≤ schedule.count 0) :
    session.ShowsLoneThread number script
      ((Cell.System.start word [Registry.callsOn number (registrySteps script)]).run schedule) := by
  obtain ⟨cell, present, rfl⟩ := exists_cell_of_wordOf? holds
  have told := Registry.tells_alone present 0 (registrySteps script)
  have made := Cell.System.hasMade cell.word enough
  rw [← made.word_eq, ← made.answers_eq, ← made.recorded_eq] at told
  exact
    { isDone := made.isDone
      word_eq := by
        rw [wordOf?, registry_run]
        exact told.word_eq
      replies_eq := by
        have replies_eq := flatMap_momentsOn
          (fun moment => [(moment.session.step moment.step).reply])
          (fun moment => [.registry moment.effect.reply])
          (fun session call => congrArg (· :: []) (reply_step session (.onCell number call)))
          session script
        rw [← List.map_eq_flatMap, ← List.map_eq_flatMap] at replies_eq
        have inside_eq := congrArg (List.map Reply.registry) told.replies_eq
        rw [List.map_map, List.map_map] at inside_eq
        exact replies_eq.trans inside_eq
      recorded_eq := by
        intro log attached
        rw [← told.recorded_eq log attached]
        exact flatMap_momentsOn _ _ (fun _ _ => List.flatMap_singleton _ _) session script
      offered_eq := by
        rw [← told.changes_eq, List.map_flatMap, List.filterMap_eq_flatMap_toList]
        refine flatMap_momentsOn _ _ (fun session call => ?_) session script
        exact Option.toList_map }

end Session
end ObjectStatus
