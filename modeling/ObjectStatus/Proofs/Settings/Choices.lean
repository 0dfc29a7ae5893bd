import ObjectStatus.Proofs.Routine.Invariant
import ObjectStatus.Settings.Interleaving

/-!
# Choices among threads

A setting that a program chooses is meant to stay as chosen, whatever the environment asks for. That
holds if the settings have been taken over, or the setting has been chosen, before the threads of the
program start. It fails if they are taken over meanwhile: a thread that has found the setting not
chosen writes the value from the environment in a later access, and a choice may come in between. In
no case does a setting get any other value than these.
-/

namespace ObjectStatus
namespace Settings

/-- The settings that a program may choose. -/
inductive Setting
  | level
  | flush
  deriving DecidableEq

namespace Setting

/-- The values of a setting. -/
abbrev Value : Setting → Type
  | .level => Level
  | .flush => Bool

/-- The value of the setting. -/
def value : (setting : Setting) → Settings → setting.Value
  | .level, settings => settings.level
  | .flush, settings => settings.flush

/-- The value of the setting is allowed. -/
def Has
    (setting : Setting)
    (allowed : setting.Value → Prop)
    (settings : Settings) : Prop :=
  allowed (setting.value settings)

/-- The program has chosen the setting. -/
def isChosen : Setting → Settings → Bool
  | .level, settings => settings.levelChosen
  | .flush, settings => settings.flushChosen

/-- The value that the environment asks for. -/
def asked? (environment : Environment) : (setting : Setting) → Option setting.Value
  | .level => environmentLevel? environment
  | .flush => environmentFlush? environment

/-- The value that the call chooses for the setting. -/
def chosenBy? : (setting : Setting) → Call → Option setting.Value
  | .level, .chooseLevel value => some value
  | .flush, .chooseFlush value => some value
  | _, _ => none

/-- The values that the calls of the threads choose for the setting. -/
def choices (setting : Setting) (programs : List (List Call)) : List setting.Value :=
  programs.flatten.filterMap setting.chosenBy?

theorem mem_choices_iff
    {setting : Setting}
    {programs : List (List Call)}
    {value : setting.Value} :
    value ∈ setting.choices programs ↔
      ∃ program ∈ programs, ∃ call ∈ program, setting.chosenBy? call = some value := by
  simp only [choices, List.mem_filterMap, List.mem_flatten]
  constructor
  · rintro ⟨call, ⟨program, program_member, member⟩, chosen⟩
    exact ⟨program, program_member, call, member, chosen⟩
  · rintro ⟨program, program_member, call, member, chosen⟩
    exact ⟨call, ⟨program, program_member, member⟩, chosen⟩

end Setting

/-! ## Accesses of a call -/

/-- No flag is taken back. -/
structure KeepsFlags (before after : Settings) : Prop where
  loaded : before.loaded = true → after.loaded = true
  levelChosen : before.levelChosen = true → after.levelChosen = true
  flushChosen : before.flushChosen = true → after.flushChosen = true

/-- Something that is known of the settings stays known, and while it is known, the setting gets no
other values from the environment than these. -/
structure Setting.Shields
    (setting : Setting)
    (environment : Environment)
    (allowed : setting.Value → Prop)
    (known : Settings → Prop) : Prop where
  /-- What is known stays known. -/
  mono : ∀ {before after : Settings}, known before → before.KeepsFlags after → known after
  /-- A thread that finds the settings not taken over, and later the setting not chosen, writes an
  allowed value. -/
  allowed_of_asked :
    ∀ before : Settings, known before → before.loaded = false →
      ∀ later, known later → setting.isChosen later = false →
        ∀ value ∈ setting.asked? environment, allowed value

variable
  {setting : Setting}
  {environment : Environment}
  {allowed : setting.Value → Prop}
  {known : Settings → Prop}

theorem Setting.Shields.keeps_write
    (shields : setting.Shields environment allowed known)
    {update : Settings → Settings}
    (keepsFlags : ∀ seen : Settings, seen.KeepsFlags (update seen))
    (keeps : ∀ seen, setting.Has allowed seen → setting.Has allowed (update seen)) :
    (Routine.write update).Keeps known (setting.Has allowed) :=
  Routine.keeps_write fun seen holds => ⟨shields.mono holds (keepsFlags seen), keeps seen⟩

/-- What is taken over has to be good only if a thread may find the setting not chosen. -/
theorem Setting.Shields.keeps_takeOver
    {α : Type}
    {asked : Option α}
    {chosen : Settings → Bool}
    {store : α → Settings → Settings}
    (shields : setting.Shields environment allowed known)
    (keepsFlags : ∀ value, ∀ seen : Settings, seen.KeepsFlags (store value seen))
    (keeps :
      ∀ value ∈ asked, ∀ found, known found → chosen found = false →
        ∀ seen, setting.Has allowed seen → setting.Has allowed (store value seen)) :
    (takeOver asked chosen store).Keeps known (setting.Has allowed) := by
  cases asked with
  | none => exact Routine.keeps_pure ()
  | some value =>
      refine Routine.keeps_read_bind fun found holds => ?_
      cases chosen_eq : chosen found with
      | true => exact Routine.keeps_pure ()
      | false => exact shields.keeps_write (keepsFlags value) (keeps value rfl found holds chosen_eq)

theorem Setting.Shields.keeps_load
    (shields : setting.Shields environment allowed known) :
    (load environment).Keeps known (setting.Has allowed) := by
  refine Routine.keeps_exchange_bind fun before holds => ⟨?_, ?_, ?_⟩
  · exact shields.mono holds ⟨fun _ => rfl, id, id⟩
  · cases setting <;> exact id
  · cases loaded_eq : before.loaded with
    | true => exact Routine.keeps_pure ()
    | false =>
        have allowed_of_asked := shields.allowed_of_asked before holds loaded_eq
        refine Routine.Keeps.bind ?_ fun _ => ?_
        · refine shields.keeps_takeOver (fun _ _ => ⟨id, id, id⟩) ?_
          intro value asked found found_holds not_chosen seen has
          cases setting with
          | level => exact has
          | flush => exact allowed_of_asked found found_holds not_chosen value asked
        · refine shields.keeps_takeOver (fun _ _ => ⟨id, id, id⟩) ?_
          intro value asked found found_holds not_chosen seen has
          cases setting with
          | level => exact allowed_of_asked found found_holds not_chosen value asked
          | flush => exact has

theorem Setting.Shields.keeps_ensureLoaded
    (shields : setting.Shields environment allowed known) :
    (ensureLoaded environment).Keeps known (setting.Has allowed) := by
  refine Routine.keeps_read_bind fun seen _ => ?_
  split
  · exact Routine.keeps_pure ()
  · exact shields.keeps_load

/-- A call that chooses an allowed value, if any, leaves an allowed value allowed. -/
theorem Setting.Shields.keeps_call
    (shields : setting.Shields environment allowed known)
    {call : Call}
    (chosen : ∀ value ∈ setting.chosenBy? call, allowed value) :
    (call.routine environment).Keeps known (setting.Has allowed) := by
  cases call with
  | load => exact shields.keeps_load
  | readLevel =>
      have keeps_read := shields.keeps_ensureLoaded.bind fun _ => Routine.keeps_read Settings.level
      exact keeps_read.bind fun _ => Routine.keeps_pure ()
  | readFlush =>
      have keeps_read := shields.keeps_ensureLoaded.bind fun _ => Routine.keeps_read Settings.flush
      exact keeps_read.bind fun _ => Routine.keeps_pure ()
  | chooseLevel value =>
      refine Routine.Keeps.bind ?_ fun _ => ?_
      · refine shields.keeps_write (fun _ => ⟨id, fun _ => rfl, id⟩) fun _ => ?_
        cases setting <;> exact id
      · refine shields.keeps_write (fun _ => ⟨id, id, id⟩) fun _ => ?_
        cases setting with
        | level => exact fun _ => chosen value rfl
        | flush => exact id
  | chooseFlush value =>
      refine Routine.Keeps.bind ?_ fun _ => ?_
      · refine shields.keeps_write (fun _ => ⟨id, id, fun _ => rfl⟩) fun _ => ?_
        cases setting <;> exact id
      · refine shields.keeps_write (fun _ => ⟨id, id, id⟩) fun _ => ?_
        cases setting with
        | level => exact id
        | flush => exact fun _ => chosen value rfl

theorem reaches_call
    {call : Call}
    {value : setting.Value}
    (chosen : setting.chosenBy? call = some value)
    (value_allowed : allowed value) :
    (call.routine environment).Reaches known (setting.Has allowed) := by
  cases setting <;> cases call <;> cases chosen
  · exact Routine.reaches_bind _ fun _ => Routine.reaches_write fun _ _ => value_allowed
  · exact Routine.reaches_bind _ fun _ => Routine.reaches_write fun _ _ => value_allowed

/-! ## Calls of a thread -/

theorem Setting.Shields.keeps_thread
    (shields : setting.Shields environment allowed known)
    {program : List Call}
    (chosen : ∀ call ∈ program, ∀ value ∈ setting.chosenBy? call, allowed value) :
    (thread environment program).Keeps known (setting.Has allowed) := by
  induction program with
  | nil => exact Routine.keeps_pure ()
  | cons call rest inductionHypothesis =>
      obtain ⟨chosen_call, chosen_rest⟩ := List.forall_mem_cons.1 chosen
      exact (shields.keeps_call chosen_call).bind fun _ => inductionHypothesis chosen_rest

theorem reaches_thread
    {program : List Call}
    {call : Call}
    {value : setting.Value}
    (member : call ∈ program)
    (chosen : setting.chosenBy? call = some value)
    (value_allowed : allowed value) :
    (thread environment program).Reaches known (setting.Has allowed) := by
  induction program with
  | nil => contradiction
  | cons first rest inductionHypothesis =>
      rcases List.mem_cons.1 member with rfl | in_rest
      · exact (reaches_call chosen value_allowed).bind _
      · exact Routine.reaches_bind _ fun _ => inductionHypothesis in_rest

/-! ## Threads in any order -/

/-- Threads that share these settings, each about to make its calls. -/
def sharing
    (environment : Environment)
    (start : Settings)
    (programs : List (List Call)) : Routine.Pool Settings Unit :=
  ⟨start, programs.map (thread environment)⟩

/-- A setting has an allowed value in the end if it has one at the start or a thread chooses one. -/
theorem Setting.Shields.allowed_of_isDone
    (shields : setting.Shields environment allowed known)
    {start : Settings}
    {programs : List (List Call)}
    {schedule : List Nat}
    (start_known : known start)
    (chosen : ∀ value ∈ setting.choices programs, allowed value)
    (reached : setting.Has allowed start ∨ setting.choices programs ≠ [])
    (done : (Routine.Pool.run schedule (sharing environment start programs)).IsDone) :
    setting.Has allowed (Routine.Pool.run schedule (sharing environment start programs)).state := by
  have attains :
      (sharing environment start programs).Attains known (setting.Has allowed) := by
    refine ⟨start_known, ?_, ?_⟩
    · intro routine routine_member
      obtain ⟨program, member, rfl⟩ := List.mem_map.1 routine_member
      refine shields.keeps_thread fun call call_member value call_chosen => chosen value ?_
      exact mem_choices_iff.2 ⟨program, member, call, call_member, call_chosen⟩
    · refine reached.imp_right fun choices_ne => ?_
      obtain ⟨value, value_member⟩ := List.exists_mem_of_ne_nil _ choices_ne
      obtain ⟨program, member, call, call_member, call_chosen⟩ := mem_choices_iff.1 value_member
      exact
        ⟨thread environment program, List.mem_map_of_mem member,
          reaches_thread call_member call_chosen (chosen value value_member)⟩
  exact (attains.run schedule).goal_of_isDone done

/-- Nothing has to be known if the environment asks for allowed values only. -/
theorem shields_anything
    (asked : ∀ value ∈ setting.asked? environment, allowed value) :
    setting.Shields environment allowed fun _ => True :=
  ⟨fun _ _ => trivial, fun _ _ _ _ _ _ => asked⟩

/-- Settings that have been taken over, or a setting that has been chosen, are shielded from the
environment. -/
theorem exists_shields
    {start : Settings}
    (settled : start.loaded = true ∨ setting.isChosen start = true) :
    ∃ known : Settings → Prop,
      known start ∧ ∀ allowed, setting.Shields environment allowed known := by
  rcases settled with loaded | chosen
  · refine ⟨fun settings => settings.loaded = true, loaded, fun allowed => ⟨?_, ?_⟩⟩
    · intro before after holds keepsFlags
      exact keepsFlags.loaded holds
    · intro before holds not_loaded
      rw [holds] at not_loaded
      contradiction
  · refine ⟨fun settings => setting.isChosen settings = true, chosen, fun allowed => ⟨?_, ?_⟩⟩
    · intro before after holds keepsFlags
      cases setting with
      | level => exact keepsFlags.levelChosen holds
      | flush => exact keepsFlags.flushChosen holds
    · intro before later _ _ holds not_chosen
      rw [holds] at not_chosen
      contradiction

/-- What becomes of a setting that threads share. -/
structure Setting.IsDecided
    (setting : Setting)
    (environment : Environment)
    (programs : List (List Call))
    (start final : Settings) : Prop where
  /-- If threads choose the setting, its value is one of the choices, or what the environment asks
  for. -/
  chosen_or_asked :
    setting.choices programs ≠ [] →
      setting.value final ∈ setting.choices programs ∨
        setting.asked? environment = some (setting.value final)
  /-- It is one of the choices if the settings had been taken over, or the setting had been chosen,
  before the threads were started. -/
  chosen :
    setting.choices programs ≠ [] → start.loaded = true ∨ setting.isChosen start = true →
      setting.value final ∈ setting.choices programs
  /-- If no thread chooses the setting, it stays as it was, or becomes what the environment asks
  for. -/
  kept_or_asked :
    setting.choices programs = [] →
      setting.value final = setting.value start ∨
        setting.asked? environment = some (setting.value final)
  /-- It stays as it was in the same two cases. -/
  kept :
    setting.choices programs = [] → start.loaded = true ∨ setting.isChosen start = true →
      setting.value final = setting.value start

/-- Whatever order the accesses of the threads come in, a setting has one of these values as soon as
all calls have returned. -/
theorem isDecided
    {setting : Setting}
    {environment : Environment}
    {programs : List (List Call)}
    {start : Settings}
    {schedule : List Nat}
    (done : (Routine.Pool.run schedule (sharing environment start programs)).IsDone) :
    setting.IsDecided environment programs start
      (Routine.Pool.run schedule (sharing environment start programs)).state where
  chosen_or_asked choices_ne := by
    have shields : setting.Shields environment
        (fun value => value ∈ setting.choices programs ∨ setting.asked? environment = some value)
        fun _ => True :=
      shields_anything fun _ asked => Or.inr asked
    exact
      shields.allowed_of_isDone trivial (fun _ member => Or.inl member) (Or.inr choices_ne) done
  chosen choices_ne settled := by
    obtain ⟨known, start_known, shields⟩ := exists_shields settled
    exact
      (shields (· ∈ setting.choices programs)).allowed_of_isDone start_known
        (fun _ member => member) (Or.inr choices_ne) done
  kept_or_asked choices_eq := by
    have shields : setting.Shields environment
        (fun value => value = setting.value start ∨ setting.asked? environment = some value)
        fun _ => True :=
      shields_anything fun _ asked => Or.inr asked
    exact shields.allowed_of_isDone trivial (by simp [choices_eq]) (Or.inl (Or.inl rfl)) done
  kept choices_eq settled := by
    obtain ⟨known, start_known, shields⟩ := exists_shields settled
    exact
      (shields (· = setting.value start)).allowed_of_isDone start_known
        (by simp [choices_eq]) (Or.inl rfl) done

/-! ## A choice that comes in between -/

/-- The choice of the level comes right after the other thread has found it not chosen. -/
theorem exists_run_level_eq
    {environment : Environment}
    {asked : Level}
    (asks : environmentLevel? environment = some asked)
    (chosen : Level) :
    ∃ schedule flush,
      Routine.Pool.run schedule (fresh environment [[.load], [.chooseLevel chosen]]) =
        ⟨{ loaded := true, level := asked, flush, levelChosen := true },
          [.finished (), .finished ()]⟩ := by
  -- The flush mode comes first, and it takes two accesses if the environment asks for one.
  cases asks_flush : environmentFlush? environment with
  | none =>
      refine ⟨[0, 0, 1, 1, 0], false, ?_⟩
      simp only [fresh, List.map, thread, Call.routine, load, asks, asks_flush]
      rfl
  | some flush =>
      refine ⟨[0, 0, 0, 0, 1, 1, 0], flush, ?_⟩
      simp only [fresh, List.map, thread, Call.routine, load, asks, asks_flush]
      rfl

/-- The choice of the flush mode comes right after the other thread has found it not chosen. -/
theorem exists_run_flush_eq
    {environment : Environment}
    {asked : Bool}
    (asks : environmentFlush? environment = some asked)
    (chosen : Bool) :
    ∃ schedule level,
      Routine.Pool.run schedule (fresh environment [[.load], [.chooseFlush chosen]]) =
        ⟨{ loaded := true, level, flush := asked, flushChosen := true },
          [.finished (), .finished ()]⟩ := by
  -- The level comes last, and it takes two accesses if the environment asks for one.
  cases asks_level : environmentLevel? environment with
  | none =>
      refine ⟨[0, 0, 1, 1, 0], .info, ?_⟩
      simp only [fresh, List.map, thread, Call.routine, load, asks, asks_level]
      rfl
  | some level =>
      refine ⟨[0, 0, 1, 1, 0, 0, 0], level, ?_⟩
      simp only [fresh, List.map, thread, Call.routine, load, asks, asks_level]
      rfl

/-- Whatever an environment asks for, it may win over a choice: one thread takes the settings over,
and the other one chooses the setting in between two accesses of the first one. -/
theorem exists_asked_over_chosen
    {setting : Setting}
    {environment : Environment}
    {asked : setting.Value}
    (asks : setting.asked? environment = some asked)
    (chosen : setting.Value) :
    ∃ programs schedule,
      setting.choices programs = [chosen] ∧
        (Routine.Pool.run schedule (fresh environment programs)).IsDone ∧
          setting.value (Routine.Pool.run schedule (fresh environment programs)).state = asked := by
  cases setting with
  | level =>
      obtain ⟨schedule, flush, run_eq⟩ := exists_run_level_eq asks chosen
      refine ⟨[[.load], [.chooseLevel chosen]], schedule, rfl, ?_, ?_⟩
      · simp [run_eq, Routine.Pool.IsDone]
      · rw [run_eq]
        rfl
  | flush =>
      obtain ⟨schedule, level, run_eq⟩ := exists_run_flush_eq asks chosen
      refine ⟨[[.load], [.chooseFlush chosen]], schedule, rfl, ?_, ?_⟩
      · simp [run_eq, Routine.Pool.IsDone]
      · rw [run_eq]
        rfl

/-- Neither setting is sure to be one of the choices. -/
theorem not_forall_mem_choices (setting : Setting) :
    ¬∀ (environment : Environment) (programs : List (List Call)) (schedule : List Nat),
      (Routine.Pool.run schedule (fresh environment programs)).IsDone →
        setting.choices programs ≠ [] →
          setting.value (Routine.Pool.run schedule (fresh environment programs)).state ∈
            setting.choices programs := by
  intro always
  have asks :
      ∃ (environment : Environment) (asked chosen : setting.Value),
        setting.asked? environment = some asked ∧ asked ≠ chosen := by
    cases setting with
    | level =>
        refine ⟨Environment.empty.set levelVariable (Text.toUtf8 "trace"), .trace, .warn, ?_⟩
        decide +kernel
    | flush =>
        refine ⟨Environment.empty.set flushVariable (Text.toUtf8 "1"), true, false, ?_⟩
        decide +kernel
  obtain ⟨environment, asked, chosen, asks, different⟩ := asks
  obtain ⟨programs, schedule, choices_eq, done, value_eq⟩ := exists_asked_over_chosen asks chosen
  have member := always environment programs schedule done (by simp [choices_eq])
  rw [choices_eq, value_eq, List.mem_singleton] at member
  exact different member

end Settings
end ObjectStatus
