import ObjectStatus.Proofs.Session.Stream

/-!
# Messages and cells do not interfere

Cells and logs change the same way whatever becomes of the messages: no environment, no setting and
no step in between that looks at the settings or chooses them can be told from what cells and logs
show. In the other direction, the levels do nothing but filter: at a lower level the same messages
are written as at a higher one, apart from those between the two levels.
-/

namespace ObjectStatus

namespace Message

/-- At a lower level the messages are missing that lie above it. -/
theorem admittedBy_iff_of_le
    {lower upper : Level}
    (lower_le : lower ≤ upper)
    (message : Message) :
    message.AdmittedBy lower ↔
      message.AdmittedBy upper ∧ ¬(lower < message.level ∧ message.level ≤ upper) := by
  constructor
  · rintro ⟨not_off, level_le⟩
    refine ⟨⟨not_off, Level.le_trans level_le lower_le⟩, ?_⟩
    rintro ⟨lower_lt, -⟩
    exact Level.not_lt_iff.2 level_le lower_lt
  · rintro ⟨⟨not_off, level_le⟩, outside⟩
    refine ⟨not_off, Level.not_lt_iff.1 ?_⟩
    intro lower_lt
    exact outside ⟨lower_lt, level_le⟩

@[simp] theorem render_nil : render [] = "" := rfl

@[simp] theorem render_singleton (message : Message) : render [message] = message.line := by
  simp [render, String.join]

end Message

namespace Session

/-! ## What cells and logs show -/

/-- What is seen of the cells and logs in a script: the reply to each piece of work on them, and all
of them afterwards. -/
def shownOfRegistry (session : Session) (script : List Step) : List (Reply × Registry) :=
  (session.moments script).filterMap fun moment =>
    moment.step.registry?.map fun _ =>
      ((moment.session.step moment.step).reply,
        (moment.session.step moment.step).session.registry)

/-- Cells and logs show in a session what they show by themselves. -/
theorem shownOfRegistry_eq (session : Session) (script : List Step) :
    session.shownOfRegistry script =
      (session.registry.trace (registrySteps script)).map fun effect =>
        (.registry effect.reply, effect.registry) := by
  induction script generalizing session with
  | nil => rfl
  | cons step rest inductionHypothesis =>
      have rest_eq := inductionHypothesis (session.step step).session
      unfold shownOfRegistry at rest_eq ⊢
      rw [moments_cons, List.filterMap_cons, rest_eq, registry_step, registrySteps_cons]
      cases step <;> rfl

/-! ## What is offered and written -/

/-- The step may offer a message. -/
def Step.speaks : Step → Bool
  | .registry _ => true
  | .emit _ => true
  | _ => false

/-- What a script offers is a matter of the cells and logs and of the steps that may offer
something. -/
theorem offered_eq_offered_filter
    {first second : Session}
    (registry_eq : first.registry = second.registry)
    (script : List Step) :
    first.offered script = second.offered (script.filter Step.speaks) := by
  induction script generalizing first second with
  | nil => rfl
  | cons step rest inductionHypothesis =>
      have after_eq :
          (first.step step).session.registry = (second.step step).session.registry := by
        rw [registry_step, registry_step, registry_eq]
      cases speaks : step.speaks with
      | true =>
          have offered_eq : Moment.offered? ⟨first, step⟩ = Moment.offered? ⟨second, step⟩ := by
            cases step with
            | registry step => simp only [Moment.offered?, registry_eq]
            | emit message => rfl
            | _ => contradiction
          rw [List.filter_cons_of_pos speaks, offered_cons, offered_cons, offered_eq,
            inductionHypothesis after_eq]
      | false =>
          have silent : Moment.offered? ⟨first, step⟩ = none := by
            cases step <;> first | rfl | contradiction
          have kept : (first.step step).session.registry = second.registry := by
            rw [← registry_eq]
            cases step <;> first | rfl | contradiction
          rw [List.filter_cons_of_neg (by simp [speaks]), offered_cons, silent]
          exact inductionHypothesis kept

theorem registrySteps_filter_speaks (script : List Step) :
    registrySteps (script.filter Step.speaks) = registrySteps script := by
  induction script with
  | nil => rfl
  | cons step rest inductionHypothesis =>
      cases step <;>
        simp [List.filter_cons, registrySteps_cons, Step.speaks, Step.registry?,
          inductionHypothesis]

/-- At a fixed level exactly those messages are written that it admits. -/
theorem written_eq_filter_of_level
    {session : Session}
    {script : List Step}
    {level : Level}
    (fixed : ∀ moment ∈ session.moments script, moment.level = level) :
    session.written script =
      (session.offered script).filter fun message => message.AdmittedBy level := by
  apply written_eq_filter
  intro moment member message _
  rw [fixed moment member]

/-- The level is fixed while a script keeps the choices. -/
theorem level_of_mem_moments
    {script : List Step}
    (keeps : ∀ step ∈ script, step.KeepsChoices)
    (session : Session) :
    ∀ moment ∈ session.moments script,
      moment.level = (session.settings.afterLoad session.environment).level := by
  induction script generalizing session with
  | nil => simp [moments]
  | cons step rest inductionHypothesis =>
      obtain ⟨keeps_step, keeps_rest⟩ := List.forall_mem_cons.mp keeps
      have rest_level := inductionHypothesis keeps_rest (session.step step).session
      rw [afterLoad_step keeps_step] at rest_level
      exact List.forall_mem_cons.mpr ⟨rfl, rest_level⟩

/-! ## Two sessions -/

/-- Two sessions that do the same work on the same cells and logs, and emit the same messages, show
the same of the cells and logs, and write the same messages as far as their levels admit them. -/
structure SeparatesMessages
    (first second : Session)
    (firstScript secondScript : List Step) : Prop where
  /-- Each piece of work on cells and logs gets the same reply and leaves the same words and
  logs. -/
  shown_eq : first.shownOfRegistry firstScript = second.shownOfRegistry secondScript
  /-- All other steps leave the cells and logs alone. -/
  registry_kept : ∀ moment ∈ first.moments firstScript, moment.step.registry? = none →
    (moment.session.step moment.step).session.registry = moment.session.registry
  /-- So the cells and logs are the same at the end. -/
  registry_eq : (first.run firstScript).registry = (second.run secondScript).registry
  /-- At a fixed level, the messages are missing which lie above it and which are written at a fixed
  higher one; the others are written in the same order. -/
  written_eq : ∀ lower upper : Level, lower ≤ upper →
    (∀ moment ∈ first.moments firstScript, moment.level = lower) →
    (∀ moment ∈ second.moments secondScript, moment.level = upper) →
      first.written firstScript =
        (second.written secondScript).filter fun message =>
          ¬(lower < message.level ∧ message.level ≤ upper)
  /-- A level is fixed as long as no step chooses another one or changes the environment. -/
  level_eq : (∀ step ∈ firstScript, step.KeepsChoices) →
    ∀ moment ∈ first.moments firstScript,
      moment.level = (first.settings.afterLoad first.environment).level
  /-- A message that a step offers is written as one line if the level admits it, and else not at
  all. -/
  text_eq : ∀ moment ∈ first.moments firstScript, ∀ message ∈ moment.offered?,
    Message.render (moment.session.step moment.step).written =
      if message.level ≠ .off ∧ message.level ≤ moment.level then
        message.level.tag ++ " " ++ message.text ++ "\n"
      else
        ""
  /-- A step that offers no message writes nothing. -/
  written_eq_nil : ∀ moment ∈ first.moments firstScript, moment.offered? = none →
    (moment.session.step moment.step).written = []
  /-- Nothing at all is written at level `off`. -/
  silent : (∀ moment ∈ first.moments firstScript, moment.level = .off) →
    Message.render (first.written firstScript) = ""

/-- Whatever the environments and settings of two sessions are, and whatever else their scripts do
with these, messages and cells do not interfere. -/
theorem separatesMessages
    {first second : Session}
    {firstScript secondScript : List Step}
    (same_registry : first.registry = second.registry)
    (same_steps : firstScript.filter Step.speaks = secondScript.filter Step.speaks) :
    SeparatesMessages first second firstScript secondScript := by
  have steps_eq : registrySteps firstScript = registrySteps secondScript := by
    rw [← registrySteps_filter_speaks, same_steps, registrySteps_filter_speaks]
  have offered_eq : first.offered firstScript = second.offered secondScript := by
    rw [offered_eq_offered_filter same_registry, same_steps]
    exact (offered_eq_offered_filter rfl secondScript).symm
  exact
    { shown_eq := by
        rw [shownOfRegistry_eq, shownOfRegistry_eq, same_registry, steps_eq]
      registry_kept := by
        intro moment _ idle
        rw [registry_step, idle]
        rfl
      registry_eq := by
        rw [registry_run, registry_run, same_registry, steps_eq]
      written_eq := by
        intro lower upper lower_le first_level second_level
        rw [written_eq_filter_of_level first_level, written_eq_filter_of_level second_level,
          List.filter_filter, offered_eq]
        apply List.filter_congr
        intro message _
        simp only [Message.admittedBy_iff_of_le lower_le, Bool.decide_and, Bool.and_comm]
      level_eq := by
        intro keeps
        exact level_of_mem_moments keeps first
      text_eq := by
        intro moment _ message offers
        rw [written_moment, offers]
        split
        · next admitted =>
            have admits : message.AdmittedBy moment.level := admitted
            simp [admits, Message.line]
        · next refused =>
            have refuses : ¬message.AdmittedBy moment.level := refused
            simp [refuses]
      written_eq_nil := by
        intro moment _ nothing
        rw [written_moment, nothing]
        rfl
      silent := by
        intro off
        rw [written_eq_filter_of_level off, List.filter_eq_nil_iff.2]
        · rfl
        · intro message _ admitted
          obtain ⟨not_off, level_le⟩ := of_decide_eq_true admitted
          exact not_off (Level.le_off_iff.1 level_le) }

/-- One session has chosen the level `warn`, and the other one takes `debug` over from its
environment. Its script has more steps, which look at the settings and change the environment. What
the first one writes is what the second one writes without the change of the cell. -/
theorem separatesMessages_of_warn_and_debug :
    ((start .empty).step (.chooseLevel .warn)).session.written
        [.registry (.openCell .staged none), .emit ⟨.warn, "late"⟩,
          .registry (.onCell 0 (.promote .ready)), .emit ⟨.trace, "seen"⟩] =
      ((start (Environment.empty.set Settings.levelVariable "Debug".toUTF8.toList)).written
          [.readFlush, .registry (.openCell .staged none), .emit ⟨.warn, "late"⟩,
            .setVariable Settings.levelVariable "off".toUTF8.toList, .load,
            .registry (.onCell 0 (.promote .ready)), .chooseFlush true,
            .emit ⟨.trace, "seen"⟩]).filter
        fun message => ¬(.warn < message.level ∧ message.level ≤ .debug) := by
  refine (separatesMessages ?_ ?_).written_eq .warn .debug (by decide) ?_ ?_
  · rfl
  · rfl
  · decide
  · decide +kernel

end Session
end ObjectStatus
