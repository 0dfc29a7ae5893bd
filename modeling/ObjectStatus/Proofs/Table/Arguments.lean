import ObjectStatus.Settings.Alone
import ObjectStatus.Table

/-!
# The arguments of the status table

The command shows its arguments one after the other. This module says what they leave behind: a line
for every argument that stands for something, a report for every other one, and how many of these
there were. Neither a report nor a row depends on the arguments around it, so a list of arguments in
two parts is shown as the two parts are.
-/

namespace ObjectStatus
namespace Table

/-! ## Rows are single lines -/

theorem newline_not_mem_hexByte (byte : UInt8) : '\n' ∉ Numeral.hexByte byte := by
  have every_value : ∀ value : Fin 256, '\n' ∉ Numeral.hexByte (UInt8.ofFin value) := by
    decide +kernel
  exact every_value byte.toFin

theorem newline_not_mem_wordRow
    (format : Format)
    (word : Word) : '\n' ∉ (wordRow format word).toList := by
  have hex_line : '\n' ∉ word.hex.toList := by
    rw [Word.hex, String.toList_ofList]
    exact newline_not_mem_hexByte word.raw
  have stage_line : '\n' ∉ word.stage.name.toList := by
    cases word.stage <;> decide
  have answer_line (value : Bool) : '\n' ∉ (yesOrNo value).toList := by
    cases value <;> decide
  have truth_line (value : Bool) : '\n' ∉ (Text.Record.ofBool value).toList := by
    cases value <;> decide
  cases format with
  | plain => simp [wordRow, hex_line, stage_line, answer_line]
  | csv => simp [wordRow, hex_line, stage_line, truth_line]

/-- No row holds the end of a line, so the lines of the output can be told apart. -/
theorem newline_not_mem_row
    (format : Format)
    (reading : Reading) : '\n' ∉ (row format reading).toList := by
  cases reading with
  | code code => cases format <;> cases code <;> decide +kernel
  | word word => exact newline_not_mem_wordRow format word

/-- An outcome of single lines has as many lines as its text. -/
theorem count_newline_standardOutput
    {outcome : Outcome}
    (single : ∀ line ∈ outcome.lines, '\n' ∉ line.toList) :
    outcome.standardOutput.toList.count '\n' = outcome.lines.length := by
  unfold Outcome.standardOutput
  generalize outcome.lines = lines at single
  induction lines with
  | nil => rfl
  | cons line rest inductionHypothesis =>
      obtain ⟨single_line, single_rest⟩ := List.forall_mem_cons.mp single
      have count_rest := inductionHypothesis single_rest
      rw [String.toList_join] at count_rest ⊢
      simp [List.count_eq_zero_of_not_mem single_line, count_rest]

/-! ## The loop over the arguments -/

/-- The arguments that stand for nothing. -/
def unread (arguments : List String) : List String :=
  arguments.filter fun argument => (Reading.ofText? argument).isNone

theorem unread_append (first second : List String) :
    unread (first ++ second) = unread first ++ unread second :=
  List.filter_append first second

theorem length_unread_eq_zero_iff
    {arguments : List String} :
    (unread arguments).length = 0 ↔
      ¬∃ argument ∈ arguments, Reading.ofText? argument = none := by
  rw [List.length_eq_zero_iff, unread, List.filter_eq_nil_iff]
  simp only [Option.isNone_iff_eq_none, not_exists, not_and]

/-- Every argument stands for something or for nothing. -/
theorem length_filterMap_add_length_unread (arguments : List String) :
    (arguments.filterMap Reading.ofText?).length + (unread arguments).length =
      arguments.length := by
  have isNone_eq (argument : String) :
      (Reading.ofText? argument).isNone = !(Reading.ofText? argument).isSome :=
    (Option.not_isSome _).symm
  rw [List.length_filterMap_eq_countP, unread, ← List.countP_eq_length_filter,
    List.length_eq_countP_add_countP (fun argument => (Reading.ofText? argument).isSome)]
  simp only [isNone_eq, Bool.not_eq_true, Bool.decide_eq_false]

/-- What arguments leave behind while a level is in effect. -/
def outcomeAt
    (format : Format)
    (level : Level)
    (arguments : List String) : Outcome where
  lines := (arguments.filterMap Reading.ofText?).map (row format)
  written := if Level.error ≤ level then (unread arguments).map unreadMessage else []
  failures := (unread arguments).length

/-- Arguments in two parts leave behind what the parts do. -/
theorem outcomeAt_append
    (format : Format)
    (level : Level)
    (first second : List String) :
    outcomeAt format level (first ++ second) =
      outcomeAt format level first ++ outcomeAt format level second := by
  ext1
  · simp [outcomeAt]
  · by_cases admitted : Level.error ≤ level
    · simp [outcomeAt, unread_append, admitted]
    · simp [outcomeAt, admitted]
  · simp [outcomeAt, unread_append]

@[simp] theorem admittedBy_unreadMessage
    {argument : String}
    {level : Level} : (unreadMessage argument).AdmittedBy level ↔ Level.error ≤ level :=
  and_iff_right nofun

@[simp] theorem admittedBy_startMessage
    {format : Format}
    {config : Config}
    {level : Level} : (startMessage format config).AdmittedBy level ↔ Level.debug ≤ level :=
  and_iff_right nofun

theorem runAlone_showArgument_fst
    (environment : Environment)
    (format : Format)
    (argument : String)
    (settings : Settings) :
    ((showArgument environment format argument).runAlone settings).1 =
      outcomeAt format (settings.afterLoad environment).level [argument] := by
  unfold showArgument outcomeAt unread
  cases found : Reading.ofText? argument with
  | some reading => simp [found]
  | none => simp [found, Settings.runAlone_emit_fst]

theorem afterLoad_showArgument
    (environment : Environment)
    (format : Format)
    (argument : String)
    (settings : Settings) :
    ((showArgument environment format argument).runAlone settings).2.afterLoad environment =
      settings.afterLoad environment := by
  unfold showArgument
  cases Reading.ofText? argument with
  | some reading => rfl
  | none =>
      rw [Routine.runAlone_bind]
      exact Settings.afterLoad_emit environment (unreadMessage argument) settings

/-- The loop leaves behind what every one of its arguments does, whatever reports come before. -/
theorem runAlone_showEach_fst
    (environment : Environment)
    (format : Format)
    (arguments : List String)
    (settings : Settings) :
    ((showEach environment format arguments).runAlone settings).1 =
      outcomeAt format (settings.afterLoad environment).level arguments := by
  induction arguments generalizing settings with
  | nil => simp [showEach, outcomeAt, unread]
  | cons argument rest inductionHypothesis =>
      have rest_eq :=
        inductionHypothesis ((showArgument environment format argument).runAlone settings).2
      rw [afterLoad_showArgument] at rest_eq
      rw [← List.singleton_append, outcomeAt_append, ← rest_eq,
        ← runAlone_showArgument_fst environment format argument settings]
      simp [showEach]

/-- The two parts of a list of arguments are shown one after the other. This holds access by access,
so nothing that comes in between can tell the parts from the whole. -/
theorem showEach_append
    (environment : Environment)
    (format : Format)
    (first second : List String) :
    showEach environment format (first ++ second) = (do
      let earlier ← showEach environment format first
      let later ← showEach environment format second
      pure (earlier ++ later)) := by
  induction first with
  | nil =>
      have nothing_before : (({} : Outcome) ++ ·) = id := funext Outcome.empty_append
      simp [showEach, nothing_before]
  | cons argument rest inductionHypothesis =>
      simp only [List.cons_append, showEach, inductionHypothesis, bind_assoc, pure_bind,
        Outcome.append_assoc]

/-! ## The whole command -/

/-- The loop is what prints the arguments, if there are any. -/
theorem print_of_ne_nil
    {environment : Environment}
    {format : Format}
    {arguments : List String}
    (nonempty : arguments ≠ []) :
    print environment format arguments = showEach environment format arguments :=
  if_neg fun empty => nonempty (List.isEmpty_iff.mp empty)

/-- What the command leaves behind when it has arguments: the message about its start, if that is
admitted, and then what the arguments do. -/
theorem run_of_ne_nil
    (environment : Environment)
    {arguments : List String}
    (nonempty : arguments ≠ []) :
    run environment arguments =
      { written :=
          if Level.debug ≤ (Config.ofEnvironment environment).logLevel then
            [startMessage (Format.ofEnvironment environment) (Config.ofEnvironment environment)]
          else [] } ++
        outcomeAt (Format.ofEnvironment environment) (Config.ofEnvironment environment).logLevel
          arguments := by
  have level_eq :
      ((((Config.ofEnvironment environment).apply.runAlone {}).2.afterLoad environment).level =
        (Config.ofEnvironment environment).logLevel) :=
    Settings.level_afterLoad_of_levelChosen rfl
  unfold run command
  simp [print_of_ne_nil nonempty, runAlone_showEach_fst, Settings.runAlone_emit_fst,
    Settings.afterLoad_emit, level_eq]

/-- What the command does with one or more arguments in an environment. -/
structure ShowsEach (environment : Environment) (arguments : List String) : Prop where
  /-- Standard output holds a line for each argument that stands for something, in order: the row of
  its code or else the row of its word. -/
  standardOutput_eq :
    (run environment arguments).standardOutput =
      String.join ((arguments.filterMap Reading.ofText?).map fun reading =>
        row (Format.ofEnvironment environment) reading ++ "\n")
  /-- Every other argument is counted. -/
  failures_eq :
    (run environment arguments).failures = (unread arguments).length
  /-- Every argument is a line on standard output or a failure. -/
  newlines_add_failures :
    (run environment arguments).standardOutput.toList.count '\n' +
      (run environment arguments).failures = arguments.length
  /-- The exit code says if some argument stands for nothing, wherever it is. -/
  exitCode_eq :
    (run environment arguments).exitCode =
      if ∃ argument ∈ arguments, Reading.ofText? argument = none then 1 else 0
  /-- A level that admits errors gets a report about each argument that stands for nothing, in
  order, behind the message about the start. -/
  standardError_eq :
    Level.error ≤ (Config.ofEnvironment environment).logLevel →
      (run environment arguments).standardError =
        Message.render
          ((if Level.debug ≤ (Config.ofEnvironment environment).logLevel then
              [startMessage (Format.ofEnvironment environment) (Config.ofEnvironment environment)]
            else []) ++
            (unread arguments).map unreadMessage)
  /-- At level `off` standard error stays empty. -/
  standardError_of_off :
    (Config.ofEnvironment environment).logLevel = .off →
      (run environment arguments).standardError = ""

/-- One or more arguments are shown one by one. -/
theorem showsEach
    (environment : Environment)
    {arguments : List String}
    (nonempty : arguments ≠ []) : ShowsEach environment arguments := by
  have run_eq := run_of_ne_nil environment nonempty
  have lines_eq :
      (run environment arguments).lines =
        (arguments.filterMap Reading.ofText?).map (row (Format.ofEnvironment environment)) := by
    rw [run_eq]
    rfl
  have failures_eq : (run environment arguments).failures = (unread arguments).length := by
    rw [run_eq]
    exact Nat.zero_add (unread arguments).length
  have written_of_error
      (admitted : Level.error ≤ (Config.ofEnvironment environment).logLevel) :
      (run environment arguments).written =
        (if Level.debug ≤ (Config.ofEnvironment environment).logLevel then
            [startMessage (Format.ofEnvironment environment) (Config.ofEnvironment environment)]
          else []) ++
          (unread arguments).map unreadMessage := by
    rw [run_eq, Outcome.written_append, outcomeAt, if_pos admitted]
  have single : ∀ line ∈ (run environment arguments).lines, '\n' ∉ line.toList := by
    rw [lines_eq, List.forall_mem_map]
    exact fun reading _ => newline_not_mem_row (Format.ofEnvironment environment) reading
  exact
    { standardOutput_eq := by
        rw [Outcome.standardOutput, lines_eq, List.map_map]
        rfl
      failures_eq := failures_eq
      newlines_add_failures := by
        rw [count_newline_standardOutput single, lines_eq, failures_eq, List.length_map]
        exact length_filterMap_add_length_unread arguments
      exitCode_eq := by
        rw [Outcome.exitCode, failures_eq]
        simp only [length_unread_eq_zero_iff, ite_not]
      standardError_eq := fun admitted => congrArg Message.render (written_of_error admitted)
      standardError_of_off := by
        intro off
        have written_eq : (run environment arguments).written = [] := by
          rw [run_eq, off]
          rfl
        rw [Outcome.standardError, written_eq]
        rfl }

/-- In every environment, the command shows its arguments one by one. -/
structure ShowsArguments (environment : Environment) : Prop where
  /-- One or more arguments are shown, whatever they are. -/
  each :
    ∀ arguments : List String, arguments ≠ [] → ShowsEach environment arguments
  /-- Two lists of arguments that are not empty are printed one after the other. -/
  print_append :
    ∀ (format : Format) (first second : List String), first ≠ [] → second ≠ [] →
      print environment format (first ++ second) = (do
        let earlier ← print environment format first
        let later ← print environment format second
        pure (earlier ++ later))
  /-- The output for both lists is the output for one and then the output for the other. -/
  standardOutput_append :
    ∀ first second : List String, first ≠ [] → second ≠ [] →
      (run environment (first ++ second)).standardOutput =
        (run environment first).standardOutput ++ (run environment second).standardOutput
  /-- The failures add up. -/
  failures_append :
    ∀ first second : List String, first ≠ [] → second ≠ [] →
      (run environment (first ++ second)).failures =
        (run environment first).failures + (run environment second).failures

/-- Whatever the environment and whatever the arguments, each argument is shown or reported, and
none gets in the way of the others. -/
theorem showsArguments (environment : Environment) : ShowsArguments environment where
  each arguments nonempty := showsEach environment nonempty
  print_append format first second first_nonempty second_nonempty := by
    rw [print_of_ne_nil first_nonempty, print_of_ne_nil second_nonempty,
      print_of_ne_nil (List.append_ne_nil_of_left_ne_nil first_nonempty second), showEach_append]
  standardOutput_append first second first_nonempty second_nonempty := by
    have both_nonempty := List.append_ne_nil_of_left_ne_nil first_nonempty second
    rw [(showsEach environment first_nonempty).standardOutput_eq,
      (showsEach environment second_nonempty).standardOutput_eq,
      (showsEach environment both_nonempty).standardOutput_eq, List.filterMap_append,
      List.map_append, String.join_append]
  failures_append first second first_nonempty second_nonempty := by
    have both_nonempty := List.append_ne_nil_of_left_ne_nil first_nonempty second
    rw [(showsEach environment first_nonempty).failures_eq,
      (showsEach environment second_nonempty).failures_eq,
      (showsEach environment both_nonempty).failures_eq, unread_append, List.length_append]

example :
    run .empty ["ready", "bogus", "0x3e"] =
      { lines :=
          ["READY         54  0x36  0b00110110",
            "0x3e  stage=READY ready=yes active=no expired=no"]
        written := [⟨.error, "'bogus' is not a status name, value or byte"⟩]
        failures := 1 } := by
  decide +kernel

end Table
end ObjectStatus
