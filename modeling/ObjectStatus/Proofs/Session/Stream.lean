import ObjectStatus.Proofs.Session.ConfiguredStart

/-!
# The messages of a session

A session has a message to offer when the word of a cell changes and when it is asked to emit one.
What is offered is a matter of the cells and logs and of the messages to be emitted, and of nothing
else. What of it is written is a matter of the level that is in effect at the moment.
-/

namespace ObjectStatus

namespace Level

theorem le_trans
    {first second third : Level}
    (le_second : first ≤ second)
    (le_third : second ≤ third) : first ≤ third :=
  UInt8.le_trans le_second le_third

theorem not_lt_iff {first second : Level} : ¬first < second ↔ second ≤ first :=
  UInt8.not_lt

/-- Only `off` itself is not above `off`. -/
theorem le_off_iff {level : Level} : level ≤ .off ↔ level = .off := by
  cases level <;> decide

end Level
namespace Session

@[simp] theorem moments_cons
    (session : Session)
    (step : Step)
    (rest : List Step) :
    session.moments (step :: rest) =
      ⟨session, step⟩ :: (session.step step).session.moments rest := rfl

theorem step_mem_of_mem_moments
    {session : Session}
    {script : List Step}
    {moment : Moment}
    (member : moment ∈ session.moments script) : moment.step ∈ script := by
  induction script generalizing session with
  | nil => contradiction
  | cons step rest inductionHypothesis =>
      rw [moments_cons] at member
      rcases List.mem_cons.1 member with rfl | later
      · exact List.mem_cons_self
      · exact List.mem_cons_of_mem step (inductionHypothesis later)

@[simp] theorem run_cons
    (session : Session)
    (step : Step)
    (rest : List Step) : session.run (step :: rest) = (session.step step).session.run rest := rfl

/-! ## Cells and logs -/

/-- The work on cells and logs in a step, if there is any. -/
def Step.registry? : Step → Option Registry.Step
  | .registry step => some step
  | _ => none

/-- The work on cells and logs in a script. -/
def registrySteps (script : List Step) : List Registry.Step :=
  script.filterMap Step.registry?

/-- Only work on cells and logs changes them. -/
theorem registry_step (session : Session) (step : Step) :
    (session.step step).session.registry = session.registry.run step.registry?.toList := by
  cases step <;> rfl

theorem registrySteps_cons (step : Step) (rest : List Step) :
    registrySteps (step :: rest) = step.registry?.toList ++ registrySteps rest := by
  cases step <;> rfl

/-- The cells and logs of a session go their own way. -/
theorem registry_run (session : Session) (script : List Step) :
    (session.run script).registry = session.registry.run (registrySteps script) := by
  induction script generalizing session with
  | nil => rfl
  | cons step rest inductionHypothesis =>
      rw [run_cons, inductionHypothesis, registry_step, registrySteps_cons]
      exact List.foldl_append.symm

/-! ## What is offered and what is written -/

namespace Moment

/-- The level that is in effect when the step is made. -/
def level (moment : Moment) : Level :=
  (moment.session.settings.afterLoad moment.session.environment).level

/-- The message that the step has to offer, if there is one. -/
def offered? (moment : Moment) : Option Message :=
  match moment.step with
  | .registry step => (moment.session.registry.step step).change.map changeMessage
  | .emit message => some message
  | _ => none

end Moment

/-- The messages that a script offers. -/
def offered (session : Session) (script : List Step) : List Message :=
  (session.moments script).filterMap Moment.offered?

theorem offered_cons
    (session : Session)
    (step : Step)
    (rest : List Step) :
    session.offered (step :: rest) =
      (Moment.offered? ⟨session, step⟩).toList ++ (session.step step).session.offered rest := by
  unfold offered
  rw [moments_cons]
  cases offered_eq : Moment.offered? ⟨session, step⟩ with
  | none =>
      rw [List.filterMap_cons_none offered_eq]
      rfl
  | some message =>
      rw [List.filterMap_cons_some offered_eq]
      rfl

theorem written_cons
    (session : Session)
    (step : Step)
    (rest : List Step) :
    session.written (step :: rest) =
      (session.step step).written ++ (session.step step).session.written rest :=
  List.flatMap_cons

theorem View.offered_eq_filter (view : View) (message : Message) :
    view.offered message = [message].filter fun message => message.AdmittedBy view.level := by
  rw [List.filter_cons, List.filter_nil]
  simp only [View.offered, decide_eq_true_eq]

/-- A step writes the message that it offers if the level in effect admits it. -/
theorem written_moment (moment : Moment) :
    (moment.session.step moment.step).written =
      moment.offered?.toList.filter fun message => message.AdmittedBy moment.level := by
  obtain ⟨session, step⟩ := moment
  rw [written_step]
  cases step with
  | registry step =>
      cases changed : (session.registry.step step).change with
      | none => simp [View.written, view, Moment.offered?, changed]
      | some change =>
          have written_eq :
              session.view.written (.registry step) =
                session.view.offered (changeMessage change) := by
            simp [View.written, view, changed]
          have offered_eq :
              Moment.offered? ⟨session, .registry step⟩ = some (changeMessage change) := by
            simp [Moment.offered?, changed]
          rw [written_eq, offered_eq]
          exact session.view.offered_eq_filter (changeMessage change)
  | emit message => exact session.view.offered_eq_filter message
  | _ => rfl

/-- If a rule tells for every message on offer whether it is written, then the rule alone tells what
a script writes. -/
theorem written_eq_filter
    {session : Session}
    {script : List Step}
    {rule : Message → Bool}
    (agrees : ∀ moment ∈ session.moments script, ∀ message ∈ moment.offered?,
      decide (message.AdmittedBy moment.level) = rule message) :
    session.written script = (session.offered script).filter rule := by
  induction script generalizing session with
  | nil => rfl
  | cons step rest inductionHypothesis =>
      obtain ⟨agrees_now, agrees_later⟩ := List.forall_mem_cons.mp agrees
      have now_eq :
          (session.step step).written = (Moment.offered? ⟨session, step⟩).toList.filter rule := by
        rw [written_moment ⟨session, step⟩]
        apply List.filter_congr
        intro message member
        exact agrees_now message (Option.mem_toList.1 member)
      rw [written_cons, offered_cons, List.filter_append, now_eq, inductionHypothesis agrees_later]

end Session
end ObjectStatus
