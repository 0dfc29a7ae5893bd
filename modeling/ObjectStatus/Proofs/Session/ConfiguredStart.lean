import ObjectStatus.Proofs.Session.EffectiveSettings

/-!
# Sessions that start from their configuration

A session may choose the settings that its environment asks for at the very start, by applying the
configuration that it has read from there, or it may leave its settings alone until they are needed
and are taken over by themselves. As long as the environment stays as it is and no other choice is
made, the two cannot be told apart.

The reading of the configuration and the taking over are separate readers of the same variables, so
the first part of this module shows that they agree on every text. The second part says how much of
a session its steps can show at all: its cells and logs, and its settings as they are once they are
needed.
-/

namespace ObjectStatus

/-! ## Two readers of the same variables -/

/-- Reading a level drops the blanks around it, so it does not matter if they are gone already. -/
theorem Level.read?_trim (text : String) :
    Level.read? (String.ofList (Text.trim text.toList)) = Level.read? text := by
  rw [Level.read?, Level.read?, Text.lookUp?, Text.lookUp?, Text.keyword_trim]

namespace Config

/-- The configuration has the level that is taken over. -/
theorem logLevel_ofEnvironment (environment : Environment) :
    (ofEnvironment environment).logLevel = Settings.requestedLevel environment := by
  unfold ofEnvironment Settings.requestedLevel Environment.read?
  simp only [Level.read?_trim]
  rfl

/-- The configuration has the flush mode that is taken over. -/
theorem flushLog_ofEnvironment (environment : Environment) :
    (ofEnvironment environment).flushLog = Settings.requestedFlush environment := by
  rw [Settings.requestedFlush_eq]
  unfold ofEnvironment Environment.switch Settings.environmentFlush?
  cases environment.text? Settings.flushVariable with
  | none => rfl
  | some text => rfl

end Config

namespace Session

/-- The step chooses no settings and does not change the environment. -/
def Step.KeepsChoices : Step → Prop
  | .apply => False
  | .chooseLevel _ => False
  | .chooseFlush _ => False
  | .setVariable _ _ => False
  | .unsetVariable _ => False
  | _ => True

instance : (step : Step) → Decidable step.KeepsChoices
  | .registry _ => isTrue trivial
  | .configure _ => isTrue trivial
  | .apply => isFalse id
  | .load => isTrue trivial
  | .readLevel => isTrue trivial
  | .readFlush => isTrue trivial
  | .chooseLevel _ => isFalse id
  | .chooseFlush _ => isFalse id
  | .admits _ => isTrue trivial
  | .emit _ => isTrue trivial
  | .setVariable _ _ => isFalse id
  | .unsetVariable _ => isFalse id

/-! ## What a session can show -/

/-- What can be seen of a session that keeps its choices. -/
@[ext]
structure View where
  /-- The cells and logs. -/
  registry : Registry
  /-- The level, as soon as it is needed. -/
  level : Level
  /-- The flush mode, as soon as it is needed. -/
  flush : Bool

/-- The view that a session gives. -/
def view (session : Session) : View where
  registry := session.registry
  level := (session.settings.afterLoad session.environment).level
  flush := (session.settings.afterLoad session.environment).flush

namespace View

/-- What is written when a message is offered. -/
def offered
    (view : View)
    (message : Message) : List Message :=
  if message.AdmittedBy view.level then [message] else []

/-- The reply to a step. -/
def reply (view : View) : Step → Reply
  | .registry step => .registry (view.registry.step step).reply
  | .readLevel => .level view.level
  | .readFlush => .flag view.flush
  | .admits level => .flag (decide (level ≠ .off ∧ level ≤ view.level))
  | _ => .nothing

/-- The messages that a step writes. -/
def written (view : View) : Step → List Message
  | .registry step =>
      (view.registry.step step).change.elim [] fun change => view.offered (changeMessage change)
  | .emit message => view.offered message
  | _ => []

/-- The view after a step. -/
def step (view : View) : Step → View
  | .registry step => { view with registry := (view.registry.step step).registry }
  | _ => view

@[simp] theorem level_step (view : View) (step : Step) : (view.step step).level = view.level := by
  cases step <;> rfl

@[simp] theorem flush_step (view : View) (step : Step) : (view.step step).flush = view.flush := by
  cases step <;> rfl

end View

/-- The view determines what is written when a message is offered. -/
theorem runAlone_emit_fst
    (session : Session)
    (message : Message) :
    ((Settings.emit session.environment message).runAlone session.settings).1 =
      session.view.offered message :=
  Settings.runAlone_emit_fst session.environment message session.settings

/-- The view determines the reply to a step. -/
theorem reply_step (session : Session) (step : Step) :
    (session.step step).reply = session.view.reply step := by
  cases step with
  | readLevel => exact reply_readLevel session
  | readFlush => exact reply_readFlush session
  | admits level =>
      by_cases off : level = .off
      · subst off
        rfl
      · simp [Session.step, onSettings, Settings.runAlone_admits _ _ off, View.reply, view, off]
  | _ => rfl

/-- The view determines what a step writes. -/
theorem written_step (session : Session) (step : Step) :
    (session.step step).written = session.view.written step := by
  cases step with
  | registry step =>
      cases changed : (session.registry.step step).change with
      | none => simp [Session.step, announce, View.written, view, changed]
      | some change =>
          have written := runAlone_emit_fst session (changeMessage change)
          simpa [Session.step, announce, onSettings, View.written, view, changed] using written
  | emit message => exact runAlone_emit_fst session message
  | _ => rfl

theorem environment_step
    {step : Step}
    (keeps : step.KeepsChoices)
    (session : Session) : (session.step step).session.environment = session.environment := by
  cases step with
  | registry step =>
      cases changed : (session.registry.step step).change with
      | none => simp [Session.step, announce, changed]
      | some change => simp [Session.step, announce, onSettings, changed]
  | apply | chooseLevel | chooseFlush | setVariable | unsetVariable => exact keeps.elim
  | _ => rfl

/-- A step that keeps the choices may take the settings over, but they are the settings that were
going to be taken over anyway. -/
theorem afterLoad_step
    {step : Step}
    (keeps : step.KeepsChoices)
    (session : Session) :
    (session.step step).session.settings.afterLoad (session.step step).session.environment =
      session.settings.afterLoad session.environment := by
  have level_kept : Moment.chosenLevel? ⟨session, step⟩ = none := by
    cases step <;> first | rfl | exact keeps.elim
  have flush_kept : Moment.chosenFlush? ⟨session, step⟩ = none := by
    cases step <;> first | rfl | exact keeps.elim
  rw [environment_step keeps, settings_step, level_kept, flush_kept, Settings.choose_none]
  split
  · exact Settings.afterLoad_afterLoad session.environment session.settings
  · rfl

/-- The view follows the steps that keep the choices. -/
theorem view_step
    {step : Step}
    (keeps : step.KeepsChoices)
    (session : Session) : (session.step step).session.view = session.view.step step := by
  have registry_eq : (session.step step).session.registry = (session.view.step step).registry := by
    cases step <;> rfl
  have settings_eq := afterLoad_step keeps session
  apply View.ext
  · exact registry_eq
  · rw [View.level_step]
    exact congrArg Settings.level settings_eq
  · rw [View.flush_step]
    exact congrArg Settings.flush settings_eq

/-- A script that keeps the choices never changes the settings that are needed. -/
theorem afterLoad_run
    {script : List Step}
    (keeps : ∀ step ∈ script, step.KeepsChoices)
    (session : Session) :
    (session.run script).settings.afterLoad (session.run script).environment =
      session.settings.afterLoad session.environment := by
  induction script generalizing session with
  | nil => rfl
  | cons step rest inductionHypothesis =>
      obtain ⟨keeps_step, keeps_rest⟩ := List.forall_mem_cons.mp keeps
      exact (inductionHypothesis keeps_rest _).trans (afterLoad_step keeps_step session)

/-- What is seen of a step from outside: its reply and the messages that it writes. -/
def Effect.shown (effect : Effect) : Reply × List Message :=
  (effect.reply, effect.written)

/-- Sessions with the same view show the same at every step. -/
theorem shown_trace_eq_of_view_eq
    {script : List Step}
    (keeps : ∀ step ∈ script, step.KeepsChoices)
    {first second : Session}
    (view_eq : first.view = second.view) :
    (first.trace script).map Effect.shown = (second.trace script).map Effect.shown := by
  induction script generalizing first second with
  | nil => rfl
  | cons step rest inductionHypothesis =>
      obtain ⟨keeps_step, keeps_rest⟩ := List.forall_mem_cons.mp keeps
      have shown_eq : (first.step step).shown = (second.step step).shown := by
        unfold Effect.shown
        rw [reply_step, reply_step, written_step, written_step, view_eq]
      have rest_eq : (first.step step).session.view = (second.step step).session.view := by
        rw [view_step keeps_step, view_step keeps_step, view_eq]
      rw [trace_cons, trace_cons, List.map_cons, List.map_cons, shown_eq,
        inductionHypothesis keeps_rest rest_eq]

/-! ## The two ways to start -/

/-- The steps by which a session chooses what its environment asks for. -/
def opening : List Step :=
  [.configure .fromEnvironment, .apply]

/-- A session that is left alone is seen with the settings that its environment asks for. -/
theorem view_start (environment : Environment) :
    (start environment).view =
      ⟨.empty, Settings.requestedLevel environment, Settings.requestedFlush environment⟩ := by
  have settings_eq : (start environment).settings = Settings.ofChoices none none none := rfl
  unfold view
  rw [settings_eq, Settings.afterLoad_ofChoices]
  rfl

/-- A session that has applied its configuration is seen with the settings of that. -/
theorem view_run_opening (environment : Environment) :
    ((start environment).run opening).view =
      ⟨.empty, (Config.ofEnvironment environment).logLevel,
        (Config.ofEnvironment environment).flushLog⟩ := by
  have settings_eq :
      ((start environment).run opening).settings =
        Settings.ofChoices (some (Config.ofEnvironment environment).logLevel)
          (some (Config.ofEnvironment environment).flushLog) none := rfl
  unfold view
  rw [settings_eq, Settings.afterLoad_ofChoices]
  rfl

theorem isNotedAlong_trace :
    IsNotedAlong (fun session step => (session.step step).session)
      (fun session step => [session.step step]) trace where
  nil _ := rfl
  cons _ _ _ := rfl

theorem trace_append
    (session : Session)
    (first second : List Step) :
    session.trace (first ++ second) =
      session.trace first ++ (session.run first).trace second :=
  isNotedAlong_trace.append session first second

/-- The messages of a script can be told from what it shows. -/
theorem written_eq_flatMap_shown
    (session : Session)
    (script : List Step) :
    session.written script = ((session.trace script).map Effect.shown).flatMap Prod.snd := by
  rw [List.flatMap_map]
  rfl

/-- As long as a script keeps the choices, it makes no difference whether a session takes its
settings over when it needs them or starts by applying the configuration from its environment. -/
structure StartsAsConfigured (environment : Environment) (script : List Step) : Prop where
  /-- The level that is taken over is the one of the configuration. -/
  level_eq :
    (((start environment).run script).step .readLevel).reply =
      .level (Config.ofEnvironment environment).logLevel
  /-- The flush mode that is taken over is the one of the configuration. -/
  flush_eq :
    (((start environment).run script).step .readFlush).reply =
      .flag (Config.ofEnvironment environment).flushLog
  /-- The two steps of the opening show nothing, and every step after them shows the same as
  without them. -/
  shown_eq :
    ((start environment).trace (opening ++ script)).map Effect.shown =
      [(.nothing, []), (.nothing, [])] ++ ((start environment).trace script).map Effect.shown
  /-- Standard error holds the same text with the opening and without it. -/
  text_eq :
    Message.render ((start environment).written (opening ++ script)) =
      Message.render ((start environment).written script)

/-- Whatever the environment, a script that keeps the choices cannot tell how its session was
started. -/
theorem startsAsConfigured
    (environment : Environment)
    {script : List Step}
    (keeps : ∀ step ∈ script, step.KeepsChoices) : StartsAsConfigured environment script := by
  have view_eq : ((start environment).run opening).view = (start environment).view := by
    rw [view_run_opening, view_start, Config.logLevel_ofEnvironment,
      Config.flushLog_ofEnvironment]
  have opening_shown :
      ((start environment).trace opening).map Effect.shown = [(.nothing, []), (.nothing, [])] := rfl
  have shown_eq :
      ((start environment).trace (opening ++ script)).map Effect.shown =
        [(.nothing, []), (.nothing, [])] ++
          ((start environment).trace script).map Effect.shown := by
    rw [trace_append, List.map_append, opening_shown, shown_trace_eq_of_view_eq keeps view_eq]
  exact
    { level_eq := by
        rw [reply_readLevel, afterLoad_run keeps, Config.logLevel_ofEnvironment]
        exact congrArg (Reply.level ·.level) (view_start environment)
      flush_eq := by
        rw [reply_readFlush, afterLoad_run keeps, Config.flushLog_ofEnvironment]
        exact congrArg (Reply.flag ·.flush) (view_start environment)
      shown_eq := shown_eq
      text_eq := by
        rw [written_eq_flatMap_shown, written_eq_flatMap_shown, shown_eq]
        rfl }

/-- A level with blanks around it is read alike in both ways, and so is a flush mode in another
case. -/
theorem startsAsConfigured_of_padded_level :
    StartsAsConfigured
      ((Environment.empty.set Settings.levelVariable " Error\t".toUTF8.toList).set
        Settings.flushVariable "YES".toUTF8.toList)
      [.registry (.openCell .staged none), .registry (.onCell 0 (.set .ready)),
        .emit ⟨.warn, "late"⟩, .readLevel, .readFlush] :=
  startsAsConfigured _ (by decide)

end Session
end ObjectStatus
