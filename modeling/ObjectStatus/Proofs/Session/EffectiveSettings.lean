import Mathlib.Data.List.Induction
import ObjectStatus.Proofs.Registry.Trail
import ObjectStatus.Proofs.Text.Spelling
import ObjectStatus.Session
import ObjectStatus.Settings.Alone

/-!
# The settings that are in effect

Which level and which flush mode a session has is a matter of its history. A setting that was chosen
is the one that was chosen last. A setting that was never chosen is the one that the environment
asked for when the session first needed its settings, whatever the environment has asked for since.
This module says which steps choose a setting and which ones need the settings, and derives the
settings of a session from its history alone.
-/

namespace ObjectStatus

/-! ## What an environment asks for -/

namespace Settings

/-- The level that an environment asks for. One that asks for none, or for something that is no
level, gets `info`. -/
def requestedLevel (environment : Environment) : Level :=
  ((environment.text? levelVariable).bind Level.read?).getD .info

/-- An environment asks for every message to be flushed by one of four words, in any case and with
any blanks around it. -/
def AsksForFlush (environment : Environment) : Prop :=
  ∃ text ∈ environment.text? flushVariable, ∃ word ∈ ["1", "true", "yes", "on"],
    Text.SameLetters (Text.trim text.toList) word.toList

instance (environment : Environment) : Decidable (AsksForFlush environment) :=
  inferInstanceAs (Decidable (∃ _ ∈ _, _))

/-- The flush mode that an environment asks for. -/
def requestedFlush (environment : Environment) : Bool :=
  decide (AsksForFlush environment)

theorem requestedLevel_eq (environment : Environment) :
    requestedLevel environment = (environmentLevel? environment).getD .info := by
  unfold requestedLevel environmentLevel?
  cases environment.text? levelVariable with
  | none => rfl
  | some text => simp only [Option.bind_some, Option.map_some, Option.getD_some]

theorem isSwitchedOn_iff
    {text : String} :
    Environment.isSwitchedOn text = true ↔
      ∃ word ∈ ["1", "true", "yes", "on"],
        Text.SameLetters (Text.trim text.toList) word.toList := by
  have lower_word : ∀ word ∈ Environment.switchedOn, Text.lower word.toList = word.toList := by
    decide
  unfold Environment.isSwitchedOn Text.keyword
  rw [List.contains_iff_mem]
  constructor
  · intro member
    refine ⟨_, member, ?_⟩
    have folded := lower_word _ member
    rw [← Text.lower_eq_lower_iff, folded, String.toList_ofList]
  · rintro ⟨word, member, same⟩
    rw [← Text.lower_eq_lower_iff, lower_word word member] at same
    rw [same, String.ofList_toList]
    exact member

theorem requestedFlush_eq (environment : Environment) :
    requestedFlush environment = (environmentFlush? environment).getD false := by
  rw [Bool.eq_iff_iff, requestedFlush, decide_eq_true_iff]
  unfold AsksForFlush environmentFlush?
  cases environment.text? flushVariable with
  | none => simp
  | some text => simp [isSwitchedOn_iff]

/-- The settings of a session in which this level and this flush mode were chosen last, if any were
chosen, and which has looked at this environment, if it has looked at one. -/
def ofChoices
    (level : Option Level)
    (flush : Option Bool)
    (source : Option Environment) : Settings where
  loaded := source.isSome
  level := level.getD ((source.map requestedLevel).getD .info)
  flush := flush.getD ((source.map requestedFlush).getD false)
  levelChosen := level.isSome
  flushChosen := flush.isSome

/-- The settings after a level and a flush mode are chosen, if they are. -/
def choose
    (settings : Settings)
    (level : Option Level)
    (flush : Option Bool) : Settings :=
  { settings with
    level := level.getD settings.level
    flush := flush.getD settings.flush
    levelChosen := level.isSome || settings.levelChosen
    flushChosen := flush.isSome || settings.flushChosen }

@[simp] theorem choose_none (settings : Settings) : settings.choose none none = settings := rfl

/-- A session looks at the environment once. -/
theorem afterLoad_ofChoices
    (level : Option Level)
    (flush : Option Bool)
    (source : Option Environment)
    (environment : Environment) :
    (ofChoices level flush source).afterLoad environment =
      ofChoices level flush (source.or (some environment)) := by
  cases source with
  | some first => exact afterLoad_of_loaded rfl
  | none =>
      cases level <;> cases flush <;>
        simp [afterLoad, ofChoices, requestedLevel_eq, requestedFlush_eq]

/-- The last choice counts. -/
theorem choose_ofChoices
    (level laterLevel : Option Level)
    (flush laterFlush : Option Bool)
    (source : Option Environment) :
    (ofChoices level flush source).choose laterLevel laterFlush =
      ofChoices (laterLevel.or level) (laterFlush.or flush) source := by
  cases laterLevel <;> cases laterFlush <;> simp [choose, ofChoices]

end Settings

/-! ## What a step does to the settings -/

namespace Registry

/-- The step changes the word of a cell. -/
def ChangesWord (registry : Registry) (step : Step) : Prop :=
  ∃ (number : Nat) (before after : Cell),
    registry.cells[number]? = some before ∧
      (registry.step step).registry.cells[number]? = some after ∧
        before.word ≠ after.word

/-- A step reports a change exactly when it changes the word of a cell. -/
theorem isSome_change_iff
    {registry : Registry}
    {step : Step} :
    (registry.step step).change.isSome = true ↔ registry.ChangesWord step := by
  constructor
  · intro reported
    cases step with
    | openLog capacity => contradiction
    | openCell code log => contradiction
    | onCell number call =>
        cases found : registry.cells[number]? with
        | none => simp [Registry.step, found] at reported
        | some cell =>
            refine ⟨number, cell, _, found, cell_step_onCell found call, ?_⟩
            intro same
            dsimp only at same
            rw [change_step_onCell found, Cell.Call.change?, ← same,
              Transition.ofWords?_self] at reported
            contradiction
    | onLog log call =>
        cases found : registry.logs[log]? <;> simp [Registry.step, found] at reported
  · rintro ⟨number, before, after, found, found_after, differs⟩
    by_cases called : step.cell? = some number
    · cases step with
      | openLog capacity => contradiction
      | openCell code log => contradiction
      | onCell other call =>
          obtain rfl : other = number := by simpa [Step.cell?] using called
          rw [cell_step_onCell found call] at found_after
          obtain rfl := Option.some.inj found_after
          simpa [Registry.step, found, Cell.Call.change?, Transition.ofWords?] using differs
      | onLog log call => contradiction
    · rw [cell_step_of_ne found called] at found_after
      obtain rfl := Option.some.inj found_after
      contradiction

instance (registry : Registry) (step : Step) : Decidable (registry.ChangesWord step) :=
  decidable_of_iff _ isSome_change_iff

end Registry

namespace Session

/-- The session after a script. -/
def run (session : Session) (script : List Step) : Session :=
  script.foldl (fun session step => (session.step step).session) session

/-- A step, with the session that it finds. -/
structure Moment where
  session : Session
  step : Step

/-- The steps of a script, each with the session that it finds. -/
def moments : Session → List Step → List Moment
  | _, [] => []
  | session, step :: rest =>
      ⟨session, step⟩ :: moments (session.step step).session rest

namespace Moment

/-- The level that the step chooses, if it chooses one. -/
def chosenLevel? (moment : Moment) : Option Level :=
  match moment.step with
  | .chooseLevel level => some level
  | .apply => some moment.session.config.logLevel
  | _ => none

/-- The flush mode that the step chooses, if it chooses one. -/
def chosenFlush? (moment : Moment) : Option Bool :=
  match moment.step with
  | .chooseFlush on => some on
  | .apply => some moment.session.config.flushLog
  | _ => none

/-- The step needs the settings: it takes them over, asks for them, or has to know whether a message
is written. -/
def NeedsSettings (moment : Moment) : Prop :=
  match moment.step with
  | .load => True
  | .readLevel => True
  | .readFlush => True
  | .admits level => level ≠ .off
  | .emit message => message.level ≠ .off
  | .registry step => moment.session.registry.ChangesWord step
  | _ => False

instance : (moment : Moment) → Decidable moment.NeedsSettings
  | ⟨_, .load⟩ => isTrue trivial
  | ⟨_, .readLevel⟩ => isTrue trivial
  | ⟨_, .readFlush⟩ => isTrue trivial
  | ⟨_, .admits level⟩ => inferInstanceAs (Decidable (level ≠ .off))
  | ⟨_, .emit message⟩ => inferInstanceAs (Decidable (message.level ≠ .off))
  | ⟨session, .registry step⟩ => inferInstanceAs (Decidable (session.registry.ChangesWord step))
  | ⟨_, .configure _⟩ => isFalse id
  | ⟨_, .apply⟩ => isFalse id
  | ⟨_, .chooseLevel _⟩ => isFalse id
  | ⟨_, .chooseFlush _⟩ => isFalse id
  | ⟨_, .setVariable _ _⟩ => isFalse id
  | ⟨_, .unsetVariable _⟩ => isFalse id

end Moment

@[simp] theorem run_nil (session : Session) : session.run [] = session := rfl

@[simp] theorem run_singleton (session : Session) (step : Step) :
    session.run [step] = (session.step step).session := rfl

@[simp] theorem moments_singleton (session : Session) (step : Step) :
    session.moments [step] = [⟨session, step⟩] := rfl

theorem run_append
    (session : Session)
    (first second : List Step) :
    session.run (first ++ second) = (session.run first).run second :=
  List.foldl_append

theorem isNotedAlong_moments :
    IsNotedAlong (fun session step => (session.step step).session)
      (fun session step => [⟨session, step⟩]) moments where
  nil _ := rfl
  cons _ _ _ := rfl

theorem moments_append
    (session : Session)
    (first second : List Step) :
    session.moments (first ++ second) =
      session.moments first ++ (session.run first).moments second :=
  isNotedAlong_moments.append session first second

/-- Only a change of a word is announced, and announcing it needs the settings. -/
theorem settings_step_registry (session : Session) (step : Registry.Step) :
    (session.step (.registry step)).session.settings =
      if session.registry.ChangesWord step then
        session.settings.afterLoad session.environment
      else
        session.settings := by
  simp only [Session.step, ← Registry.isSome_change_iff]
  cases (session.registry.step step).change with
  | none => simp [announce]
  | some change =>
      have level_ne : (changeMessage change).level ≠ .off := nofun
      simp [announce, onSettings, Settings.runAlone_emit _ _ level_ne]

/-- A step takes the settings over if it needs them, and makes its choices. -/
theorem settings_step (session : Session) (step : Step) :
    (session.step step).session.settings =
      (if Moment.NeedsSettings ⟨session, step⟩ then
          session.settings.afterLoad session.environment
        else
          session.settings).choose
        (Moment.chosenLevel? ⟨session, step⟩) (Moment.chosenFlush? ⟨session, step⟩) := by
  cases step with
  | registry step => exact settings_step_registry session step
  | configure step => rfl
  | apply => rfl
  | load => exact congrArg Prod.snd (Settings.runAlone_load session.environment session.settings)
  | readLevel =>
      exact congrArg Prod.snd (Settings.runAlone_readLevel session.environment session.settings)
  | readFlush =>
      exact congrArg Prod.snd (Settings.runAlone_readFlush session.environment session.settings)
  | chooseLevel level => rfl
  | chooseFlush on => rfl
  | admits level =>
      by_cases off : level = .off
      · subst off
        rfl
      · have needs : Moment.NeedsSettings ⟨session, .admits level⟩ := off
        rw [if_pos needs]
        exact congrArg Prod.snd (Settings.runAlone_admits session.environment session.settings off)
  | emit message =>
      obtain ⟨level, text⟩ := message
      by_cases off : level = .off
      · subst off
        rfl
      · have needs : Moment.NeedsSettings ⟨session, .emit ⟨level, text⟩⟩ := off
        rw [if_pos needs]
        exact congrArg Prod.snd (Settings.runAlone_emit session.environment session.settings needs)
  | setVariable name bytes => rfl
  | unsetVariable name => rfl

theorem reply_readLevel (session : Session) :
    (session.step .readLevel).reply =
      .level (session.settings.afterLoad session.environment).level := by
  simp [Session.step, onSettings]

theorem reply_readFlush (session : Session) :
    (session.step .readFlush).reply =
      .flag (session.settings.afterLoad session.environment).flush := by
  simp [Session.step, onSettings]

/-! ## The history of the settings -/

/-- The choice that was made last, if any was. -/
def lastChoice?
    {α : Type}
    (choice? : Moment → Option α)
    (history : List Moment) : Option α :=
  history.reverse.findSome? choice?

/-- The environment as it was when the settings were first needed, if they have been. -/
def source? (history : List Moment) : Option Environment :=
  (history.find? fun moment => moment.NeedsSettings).map (·.session.environment)

theorem lastChoice?_append_singleton
    {α : Type}
    (choice? : Moment → Option α)
    (history : List Moment)
    (moment : Moment) :
    lastChoice? choice? (history ++ [moment]) =
      (choice? moment).or (lastChoice? choice? history) := by
  unfold lastChoice?
  rw [List.reverse_append, List.findSome?_append, List.reverse_singleton, List.findSome?_singleton]

theorem source?_append_of_needs
    {moment : Moment}
    (needs : moment.NeedsSettings)
    (history : List Moment) :
    source? (history ++ [moment]) =
      (source? history).or (some moment.session.environment) := by
  simp [source?, List.find?_append, needs]

theorem source?_append_of_not_needs
    {moment : Moment}
    (idle : ¬moment.NeedsSettings)
    (history : List Moment) : source? (history ++ [moment]) = source? history := by
  simp [source?, List.find?_append, idle]

/-- The settings of a session are a matter of its history. -/
theorem settings_run_start (environment : Environment) (script : List Step) :
    ((start environment).run script).settings =
      Settings.ofChoices
        (lastChoice? Moment.chosenLevel? ((start environment).moments script))
        (lastChoice? Moment.chosenFlush? ((start environment).moments script))
        (source? ((start environment).moments script)) := by
  induction script using List.reverseRecOn with
  | nil => rfl
  | append_singleton earlier step inductionHypothesis =>
      rw [run_append, moments_append, run_singleton, settings_step, inductionHypothesis,
        moments_singleton, lastChoice?_append_singleton, lastChoice?_append_singleton]
      by_cases needs : Moment.NeedsSettings ⟨(start environment).run earlier, step⟩
      · rw [if_pos needs, Settings.afterLoad_ofChoices, Settings.choose_ofChoices,
          source?_append_of_needs needs]
      · rw [if_neg needs, Settings.choose_ofChoices, source?_append_of_not_needs needs]

/-- The level that is in effect after a script: the one that was chosen last, or else the one that
the environment asked for when the settings were first needed. If they have not been needed yet,
asking for the level is the first need. -/
def effectiveLevel (session : Session) (script : List Step) : Level :=
  (lastChoice? Moment.chosenLevel? (session.moments script)).getD
    (Settings.requestedLevel
      ((source? (session.moments script)).getD (session.run script).environment))

/-- The flush mode that is in effect after a script, found in the same way. -/
def effectiveFlush (session : Session) (script : List Step) : Bool :=
  (lastChoice? Moment.chosenFlush? (session.moments script)).getD
    (Settings.requestedFlush
      ((source? (session.moments script)).getD (session.run script).environment))

/-- A session that has run a script from its beginning has the settings that its history calls
for. -/
structure HasEffectiveSettings (environment : Environment) (script : List Step) : Prop where
  /-- A question for the level is answered with the level that is in effect. -/
  level_eq :
    (((start environment).run script).step .readLevel).reply =
      .level ((start environment).effectiveLevel script)
  /-- A question for the flush mode is answered with the flush mode that is in effect. -/
  flush_eq :
    (((start environment).run script).step .readFlush).reply =
      .flag ((start environment).effectiveFlush script)
  /-- The session has looked at its environment exactly if some step has needed the settings. -/
  loaded_iff :
    ((start environment).run script).settings.loaded = true ↔
      ∃ moment ∈ (start environment).moments script, moment.NeedsSettings

/-- Whatever the environment and the script, the settings are those that the history calls for. -/
theorem hasEffectiveSettings (environment : Environment) (script : List Step) :
    HasEffectiveSettings environment script where
  level_eq := by
    rw [reply_readLevel, settings_run_start, Settings.afterLoad_ofChoices, effectiveLevel]
    cases source? ((start environment).moments script) <;> rfl
  flush_eq := by
    rw [reply_readFlush, settings_run_start, Settings.afterLoad_ofChoices, effectiveFlush]
    cases source? ((start environment).moments script) <;> rfl
  loaded_iff := by
    rw [settings_run_start]
    simp [Settings.ofChoices, source?]

end Session
end ObjectStatus
