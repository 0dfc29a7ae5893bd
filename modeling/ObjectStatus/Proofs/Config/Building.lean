import ObjectStatus.Proofs.Config.FromEnvironment
import ObjectStatus.Proofs.Session.Stream

/-!
# Building configurations

A configuration is built step by step: it starts over from the defaults, or from the environment as
that is at the moment, or one of its fields is set. Each field has the value that the last step with
a say in it gave it. So setters of different fields may change places, and a setter counts for
nothing once its field is given another value.

No step leaves a capacity of zero, whichever way it takes. A log that is opened with a configuration
therefore has exactly the configured capacity.
-/

namespace ObjectStatus
namespace Config

/-- A step, with the environment that it finds. -/
structure Moment where
  environment : Environment
  step : Step

/-- The configuration after the steps of a history. -/
def run (config : Config) (history : List Moment) : Config :=
  history.foldl (fun config moment => config.step moment.environment moment.step) config

@[simp] theorem run_nil (config : Config) : config.run [] = config := rfl

@[simp] theorem run_cons
    (config : Config)
    (moment : Moment)
    (rest : List Moment) :
    config.run (moment :: rest) = (config.step moment.environment moment.step).run rest := rfl

/-! ## Fields -/

/-- The fields of a configuration. -/
inductive Field
  | logCapacity
  | logLevel
  | flushLog
  deriving DecidableEq

/-- The field that the step is the setter of. -/
def Step.field? : Step → Option Field
  | .reset => none
  | .fromEnvironment => none
  | .logCapacity _ => some .logCapacity
  | .logLevel _ => some .logLevel
  | .flushLog _ => some .flushLog

namespace Field

/-- The values of a field. -/
abbrev Value : Field → Type
  | .logCapacity => Nat
  | .logLevel => Level
  | .flushLog => Bool

/-- The value of the field. -/
def value : (field : Field) → Config → field.Value
  | .logCapacity, config => config.logCapacity
  | .logLevel, config => config.logLevel
  | .flushLog, config => config.flushLog

/-- What the field is set to, if the step is a setter of this field. A capacity is at least one. -/
def setBy? : (field : Field) → Step → Option field.Value
  | .logCapacity, .logCapacity capacity => some (max 1 capacity)
  | .logLevel, .logLevel level => some level
  | .flushLog, .flushLog on => some on
  | _, _ => none

/-- What the step gives to the field, if it has a say in it. -/
def given? (field : Field) (moment : Moment) : Option field.Value :=
  match moment.step with
  | .reset => some (field.value default)
  | .fromEnvironment => some (field.value (ofEnvironment moment.environment))
  | step => field.setBy? step

/-- What the field was given last, if it was given anything. -/
def lastGiven? (field : Field) (history : List Moment) : Option field.Value :=
  history.reverse.findSome? field.given?

/-- A step changes a field exactly if it has a say in it. -/
theorem value_step
    (field : Field)
    (config : Config)
    (moment : Moment) :
    field.value (config.step moment.environment moment.step) =
      (field.given? moment).getD (field.value config) := by
  obtain ⟨environment, step⟩ := moment
  cases step <;> cases field <;> rfl

/-- Starting over has a say in every field, and a setter in its own field only. -/
theorem isSome_given?_iff
    {field : Field}
    {moment : Moment} :
    (field.given? moment).isSome = true ↔
      moment.step.field? = none ∨ moment.step.field? = some field := by
  obtain ⟨environment, step⟩ := moment
  cases step with
  | reset => simp [given?, Step.field?]
  | fromEnvironment => simp [given?, Step.field?]
  | logCapacity capacity => cases field <;> simp [given?, setBy?, Step.field?]
  | logLevel level => cases field <;> simp [given?, setBy?, Step.field?]
  | flushLog on => cases field <;> simp [given?, setBy?, Step.field?]

theorem given?_eq_none_of_field?
    {field other : Field}
    {moment : Moment}
    (isSetter : moment.step.field? = some field)
    (different : other ≠ field) : other.given? moment = none := by
  rw [← Option.not_isSome_iff_eq_none, isSome_given?_iff, isSetter]
  simp [different.symm]

@[simp] theorem lastGiven?_append
    (field : Field)
    (first second : List Moment) :
    field.lastGiven? (first ++ second) =
      (field.lastGiven? second).or (field.lastGiven? first) := by
  unfold lastGiven?
  rw [List.reverse_append, List.findSome?_append]

@[simp] theorem lastGiven?_cons
    (field : Field)
    (moment : Moment)
    (rest : List Moment) :
    field.lastGiven? (moment :: rest) = (field.lastGiven? rest).or (field.given? moment) := by
  unfold lastGiven?
  rw [List.reverse_cons, List.findSome?_append, List.findSome?_singleton]

theorem lastGiven?_eq_none
    {field : Field}
    {history : List Moment}
    (silent : ∀ moment ∈ history, field.given? moment = none) :
    field.lastGiven? history = none := by
  rw [lastGiven?, List.findSome?_eq_none_iff]
  intro moment member
  exact silent moment (List.mem_reverse.1 member)

/-- A field has the value that it was given last. -/
theorem value_run
    (field : Field)
    (config : Config)
    (history : List Moment) :
    field.value (config.run history) = (field.lastGiven? history).getD (field.value config) := by
  induction history generalizing config with
  | nil => rfl
  | cons moment rest inductionHypothesis =>
      rw [run_cons, inductionHypothesis, value_step, lastGiven?_cons, Option.getD_or]

/-- What holds of a field at first, and of everything that it is given, holds of it in the end. -/
theorem holds_run
    (field : Field)
    {allowed : field.Value → Prop}
    {config : Config}
    {history : List Moment}
    (at_first : allowed (field.value config))
    (of_given : ∀ moment ∈ history, ∀ value ∈ field.given? moment, allowed value) :
    allowed (field.value (config.run history)) := by
  rw [value_run]
  cases found : field.lastGiven? history with
  | none => exact at_first
  | some value =>
      obtain ⟨moment, member, given⟩ := List.exists_of_findSome?_eq_some found
      exact of_given moment (List.mem_reverse.1 member) value given

end Field

/-- Configurations with the same fields are equal. -/
theorem eq_of_value_eq
    {first second : Config}
    (same : ∀ field : Field, field.value first = field.value second) : first = second := by
  cases first
  cases second
  rw [Config.mk.injEq]
  exact ⟨same .logCapacity, same .logLevel, same .flushLog⟩

/-- Histories that give every field the same in the end build the same configuration. -/
theorem run_congr
    {first second : List Moment}
    (same : ∀ field : Field, field.lastGiven? first = field.lastGiven? second)
    (config : Config) : config.run first = config.run second := by
  apply eq_of_value_eq
  intro field
  rw [Field.value_run, Field.value_run, same]

/-! ## Order of setters -/

/-- Setters of different fields may change places. -/
theorem run_swap
    {field other : Field}
    {first second : Moment}
    (different : field ≠ other)
    (isSetter_first : first.step.field? = some field)
    (isSetter_second : second.step.field? = some other)
    (config : Config)
    (front back : List Moment) :
    config.run (front ++ first :: second :: back) =
      config.run (front ++ second :: first :: back) := by
  refine run_congr (fun third => ?_) config
  simp only [Field.lastGiven?_append, Field.lastGiven?_cons]
  -- One of the two setters has no say in the field.
  by_cases same : third = field
  · subst same
    rw [Field.given?_eq_none_of_field? isSetter_second different, Option.or_none, Option.or_none]
  · rw [Field.given?_eq_none_of_field? isSetter_first same, Option.or_none, Option.or_none]

/-- A setter may be left out if its field is given another value later. -/
theorem run_drop
    {field : Field}
    {first second : Moment}
    (isSetter : first.step.field? = some field)
    (given : (field.given? second).isSome = true)
    (config : Config)
    (front middle back : List Moment) :
    config.run (front ++ first :: middle ++ second :: back) =
      config.run (front ++ middle ++ second :: back) := by
  refine run_congr (fun other => ?_) config
  simp only [Field.lastGiven?_append, Field.lastGiven?_cons]
  by_cases same : other = field
  · subst same
    obtain ⟨value, given_eq⟩ := Option.isSome_iff_exists.1 given
    rw [given_eq]
    simp
  · rw [Field.given?_eq_none_of_field? isSetter same, Option.or_none]

/-! ## Capacities -/

/-- A capacity that is given is the default, or what the environment asks for, or it is set. -/
theorem capacity_cases
    {moment : Moment}
    {capacity : Nat}
    (given : Field.logCapacity.given? moment = some capacity) :
    capacity = 256 ∨ capacity = (ofEnvironment moment.environment).logCapacity ∨
      ∃ chosen, moment.step = .logCapacity chosen ∧ capacity = max 1 chosen := by
  obtain ⟨environment, step⟩ := moment
  cases step with
  | reset => exact Or.inl (Option.some.inj given).symm
  | fromEnvironment => exact Or.inr (Or.inl (Option.some.inj given).symm)
  | logCapacity chosen => exact Or.inr (Or.inr ⟨chosen, rfl, (Option.some.inj given).symm⟩)
  | logLevel level => contradiction
  | flushLog on => contradiction

/-- No step gives a capacity of zero. -/
theorem one_le_of_given
    {moment : Moment}
    {capacity : Nat}
    (given : Field.logCapacity.given? moment = some capacity) : 1 ≤ capacity := by
  rcases capacity_cases given with rfl | rfl | ⟨chosen, -, rfl⟩
  · decide
  · exact Nat.le_max_left 1 _
  · exact Nat.le_max_left 1 chosen

/-- An environment asks for no capacity that takes more than sixty-four bits. -/
theorem logCapacity_ofEnvironment_lt (environment : Environment) :
    (ofEnvironment environment).logCapacity < 2 ^ 64 := by
  unfold ofEnvironment
  cases read : environment.read? (Environment.unsignedReader 64) capacityVariable with
  | none => exact Nat.max_lt.2 ⟨by decide, by decide⟩
  | some number =>
      obtain ⟨-, -, -, below⟩ := read?_capacity_eq_some_iff.1 read
      exact Nat.max_lt.2 ⟨by decide, below⟩

/-- A capacity that is given takes more than sixty-four bits only if it is set so. -/
theorem lt_of_given
    {moment : Moment}
    {capacity : Nat}
    (below : ∀ chosen, moment.step = .logCapacity chosen → chosen < 2 ^ 64)
    (given : Field.logCapacity.given? moment = some capacity) : capacity < 2 ^ 64 := by
  rcases capacity_cases given with rfl | rfl | ⟨chosen, step_eq, rfl⟩
  · decide
  · exact logCapacity_ofEnvironment_lt moment.environment
  · exact Nat.max_lt.2 ⟨by decide, below chosen step_eq⟩

/-- What a history builds from the defaults. Since every beginning of a history is a history, this
is said of every point of it. -/
structure IsBuiltFieldByField (history : List Moment) : Prop where
  /-- There is room for one entry. -/
  one_le_logCapacity : 1 ≤ (default.run history).logCapacity
  /-- The capacity takes sixty-four bits if no setter asks for more. -/
  logCapacity_lt :
    (∀ moment ∈ history, ∀ capacity, moment.step = .logCapacity capacity → capacity < 2 ^ 64) →
      (default.run history).logCapacity < 2 ^ 64
  /-- A log that is opened is empty. -/
  entries_openLog : (default.run history).openLog.entries = []
  /-- It has given nothing up. -/
  dropped_openLog : (default.run history).openLog.dropped = 0
  /-- It has exactly the configured capacity. -/
  capacity_openLog : (default.run history).openLog.capacity = (default.run history).logCapacity
  /-- Starting over has a say in every field, and a setter in its own field only. -/
  isSome_given?_iff : ∀ moment ∈ history, ∀ field : Field,
    (field.given? moment).isSome = true ↔
      moment.step.field? = none ∨ moment.step.field? = some field
  /-- A field has what the last step with a say in it gave it. -/
  value_of_last : ∀ (field : Field) front moment back value,
    history = front ++ moment :: back →
      field.given? moment = some value →
        (∀ later ∈ back, field.given? later = none) →
          field.value (default.run history) = value
  /-- A field in which no step has had a say is at its default. -/
  value_of_silent : ∀ field : Field,
    (∀ moment ∈ history, field.given? moment = none) →
      field.value (default.run history) = field.value default
  /-- Setters of different fields that follow each other may change places. -/
  swap : ∀ (field other : Field) front first second back,
    history = front ++ first :: second :: back →
      field ≠ other → first.step.field? = some field → second.step.field? = some other →
        default.run history = default.run (front ++ second :: first :: back)
  /-- Of two setters of one field only the later one counts, whatever is between them. -/
  drop : ∀ (field : Field) front first middle second back,
    history = front ++ first :: middle ++ second :: back →
      first.step.field? = some field → second.step.field? = some field →
        default.run history = default.run (front ++ middle ++ second :: back)

/-- Every history builds a configuration field by field, with a capacity that every log can have. -/
theorem isBuiltFieldByField (history : List Moment) : IsBuiltFieldByField history := by
  have one_le : 1 ≤ (default.run history).logCapacity :=
    Field.holds_run .logCapacity (by decide) fun _ _ _ given => one_le_of_given given
  exact
    { one_le_logCapacity := one_le
      logCapacity_lt := by
        intro below
        exact Field.holds_run .logCapacity (by decide) fun moment member _ given =>
          lt_of_given (below moment member) given
      entries_openLog := rfl
      dropped_openLog := rfl
      capacity_openLog := by rw [openLog, TransitionLog.capacity_new, Nat.max_eq_left one_le]
      isSome_given?_iff := fun _ _ _ => Field.isSome_given?_iff
      value_of_last := by
        rintro field front moment back value rfl given silent
        rw [Field.value_run, Field.lastGiven?_append, Field.lastGiven?_cons,
          Field.lastGiven?_eq_none silent, given]
        rfl
      value_of_silent := by
        intro field silent
        rw [Field.value_run, Field.lastGiven?_eq_none silent]
        rfl
      swap := by
        rintro field other front first second back rfl different isSetter_first isSetter_second
        exact run_swap different isSetter_first isSetter_second default front back
      drop := by
        rintro field front first middle second back rfl isSetter_first isSetter_second
        have given := Field.isSome_given?_iff.2 (Or.inr isSetter_second)
        exact run_drop isSetter_first given default front middle back }

/-- The environment counts as it is when the configuration starts over from it. -/
example :
    default.run
        [⟨.empty, .logCapacity 9⟩, ⟨.empty, .flushLog true⟩,
          ⟨Environment.empty.set capacityVariable "0".toUTF8.toList, .fromEnvironment⟩,
          ⟨.empty, .logLevel .warn⟩] =
      ⟨1, .warn, false⟩ := by
  decide +kernel

end Config

/-! ## Sessions -/

namespace Session

/-- The step of a configuration that a step of a session is, in the environment of the session. -/
def Moment.building? (moment : Moment) : Option Config.Moment :=
  match moment.step with
  | .configure step => some ⟨moment.session.environment, step⟩
  | _ => none

theorem config_step
    (session : Session)
    (step : Step) :
    (session.step step).session.config =
      session.config.run (Moment.building? ⟨session, step⟩).toList := by
  cases step with
  | registry step =>
      simp only [Session.step]
      cases (session.registry.step step).change <;> rfl
  | configure step => rfl
  | apply => rfl
  | load => rfl
  | readLevel => rfl
  | readFlush => rfl
  | chooseLevel level => rfl
  | chooseFlush on => rfl
  | admits level => rfl
  | emit message => rfl
  | setVariable name bytes => rfl
  | unsetVariable name => rfl

/-- A session builds its configuration by the steps that are meant for it, each in the environment
that it finds. Nothing else in the session has a say in it. -/
theorem config_run
    (session : Session)
    (script : List Step) :
    (session.run script).config =
      session.config.run ((session.moments script).filterMap Moment.building?) := by
  induction script generalizing session with
  | nil => rfl
  | cons step rest inductionHypothesis =>
      rw [run_cons, inductionHypothesis, config_step, moments_cons, List.filterMap_cons]
      cases Moment.building? ⟨session, step⟩ <;> rfl

end Session
end ObjectStatus
