import ObjectStatus.Settings

/-!
# Settings used by one thread

What the operations on the settings come to when no other thread comes in between: taking over is
one change of the settings, made at the first need, and every reading sees the settings after it.
-/

namespace ObjectStatus
namespace Settings

/-- The settings once they have been taken over from the environment. -/
def afterLoad
    (environment : Environment)
    (settings : Settings) : Settings :=
  if settings.loaded then
    settings
  else
    { settings with
      loaded := true
      level :=
        if settings.levelChosen then settings.level
        else (environmentLevel? environment).getD settings.level
      flush :=
        if settings.flushChosen then settings.flush
        else (environmentFlush? environment).getD settings.flush }

/-- Settings that have been taken over are not taken over again. -/
theorem afterLoad_of_loaded
    {environment : Environment}
    {settings : Settings}
    (loaded : settings.loaded = true) : settings.afterLoad environment = settings := by
  simp [afterLoad, loaded]

@[simp] theorem loaded_afterLoad
    (environment : Environment)
    (settings : Settings) : (settings.afterLoad environment).loaded = true := by
  unfold afterLoad
  split
  · assumption
  · rfl

@[simp] theorem afterLoad_afterLoad
    (environment : Environment)
    (settings : Settings) :
    (settings.afterLoad environment).afterLoad environment = settings.afterLoad environment :=
  afterLoad_of_loaded (loaded_afterLoad environment settings)

/-- A level that the program has chosen stays. -/
theorem level_afterLoad_of_levelChosen
    {environment : Environment}
    {settings : Settings}
    (chosen : settings.levelChosen = true) :
    (settings.afterLoad environment).level = settings.level := by
  unfold afterLoad
  rw [if_pos chosen]
  split <;> rfl

@[simp] theorem runAlone_takeOver_none
    {α : Type}
    (chosen : Settings → Bool)
    (store : α → Settings → Settings)
    (settings : Settings) :
    (takeOver none chosen store).runAlone settings = ((), settings) := rfl

@[simp] theorem runAlone_takeOver_some
    {α : Type}
    (value : α)
    (chosen : Settings → Bool)
    (store : α → Settings → Settings)
    (settings : Settings) :
    (takeOver (some value) chosen store).runAlone settings =
      ((), if chosen settings then settings else store value settings) := by
  unfold takeOver
  rw [Routine.runAlone_bind]
  cases chosen_eq : chosen settings <;> simp [chosen_eq]

@[simp] theorem runAlone_load
    (environment : Environment)
    (settings : Settings) :
    (load environment).runAlone settings = ((), settings.afterLoad environment) := by
  obtain ⟨loaded, level, flush, levelChosen, flushChosen⟩ := settings
  unfold load afterLoad
  cases loaded with
  | true => simp
  | false =>
      cases environmentFlush? environment <;> cases environmentLevel? environment <;>
        cases levelChosen <;> cases flushChosen <;> simp

@[simp] theorem runAlone_ensureLoaded
    (environment : Environment)
    (settings : Settings) :
    (ensureLoaded environment).runAlone settings = ((), settings.afterLoad environment) := by
  unfold ensureLoaded
  cases loaded_eq : settings.loaded with
  | true => simp [loaded_eq, afterLoad_of_loaded]
  | false => simp [loaded_eq]

@[simp] theorem runAlone_readLevel
    (environment : Environment)
    (settings : Settings) :
    (readLevel environment).runAlone settings =
      ((settings.afterLoad environment).level, settings.afterLoad environment) := by
  simp [readLevel]

@[simp] theorem runAlone_readFlush
    (environment : Environment)
    (settings : Settings) :
    (readFlush environment).runAlone settings =
      ((settings.afterLoad environment).flush, settings.afterLoad environment) := by
  simp [readFlush]

@[simp] theorem runAlone_chooseLevel
    (value : Level)
    (settings : Settings) :
    (chooseLevel value).runAlone settings =
      ((), { settings with levelChosen := true, level := value }) := rfl

@[simp] theorem runAlone_chooseFlush
    (value : Bool)
    (settings : Settings) :
    (chooseFlush value).runAlone settings =
      ((), { settings with flushChosen := true, flush := value }) := rfl

@[simp] theorem runAlone_admits_off
    (environment : Environment)
    (settings : Settings) :
    (admits environment .off).runAlone settings = (false, settings) := rfl

/-- Every level but `off` is compared with the effective level. -/
theorem runAlone_admits
    {level : Level}
    (environment : Environment)
    (settings : Settings)
    (level_ne : level ≠ .off) :
    (admits environment level).runAlone settings =
      (decide (level ≤ (settings.afterLoad environment).level),
        settings.afterLoad environment) := by
  simp [admits, level_ne]

@[simp] theorem runAlone_emit_off
    (environment : Environment)
    (text : String)
    (settings : Settings) :
    (emit environment ⟨.off, text⟩).runAlone settings = ([], settings) := rfl

/-- A message is written exactly when the effective level admits it. -/
theorem runAlone_emit
    {message : Message}
    (environment : Environment)
    (settings : Settings)
    (level_ne : message.level ≠ .off) :
    (emit environment message).runAlone settings =
      (if message.AdmittedBy (settings.afterLoad environment).level then [message] else [],
        settings.afterLoad environment) := by
  unfold emit Message.AdmittedBy
  rw [Routine.runAlone_bind, runAlone_admits environment settings level_ne]
  by_cases admitted : message.level ≤ (settings.afterLoad environment).level
  · simp [admitted, level_ne]
  · simp [admitted]

/-- Whatever its level, a message is written if the level that is needed for it admits it. -/
theorem runAlone_emit_fst
    (environment : Environment)
    (message : Message)
    (settings : Settings) :
    ((emit environment message).runAlone settings).1 =
      if message.AdmittedBy (settings.afterLoad environment).level then [message] else [] := by
  obtain ⟨level, text⟩ := message
  by_cases off : level = .off
  · subst off
    rw [runAlone_emit_off]
    exact (if_neg fun admitted => admitted.1 rfl).symm
  · rw [runAlone_emit environment settings off]

/-- A message takes over no other settings than the ones that are going to be taken over anyway. -/
theorem afterLoad_emit
    (environment : Environment)
    (message : Message)
    (settings : Settings) :
    ((emit environment message).runAlone settings).2.afterLoad environment =
      settings.afterLoad environment := by
  obtain ⟨level, text⟩ := message
  by_cases off : level = .off
  · subst off
    rw [runAlone_emit_off]
  · rw [runAlone_emit environment settings off]
    exact afterLoad_afterLoad environment settings

end Settings
end ObjectStatus
