import ObjectStatus.Proofs.Config.FromEnvironment
import ObjectStatus.Proofs.Reading.Alike
import ObjectStatus.Proofs.Table.Arguments

/-!
# Spellings of the arguments

What the command prints and the code with which it exits are a matter of what its arguments stand
for and of the format of the rows. The blanks around an argument and the case of its letters do not
show in them, and neither do the settings for messages and logs: these decide what is written to
standard error, and nothing else.
-/

namespace ObjectStatus
namespace Table

/-! ## The format -/

/-- The environment asks for rows with commas: the text of its variable is `csv`, in any case and
with any blanks around it. -/
def AsksForCsv (environment : Environment) : Prop :=
  ∃ text,
    environment.bytes? Format.variableName = some (Text.toUtf8 text) ∧
      Text.SpelledAlike text "csv"

theorem Format.read?_eq_csv_iff
    {text : String} : read? text = some .csv ↔ Text.SpelledAlike text "csv" := by
  have csv_iff : Text.keyword text = "csv" ↔ Text.SpelledAlike text "csv" := by
    have lower_csv : Text.lower (Text.trim "csv".toList) = "csv".toList := by decide
    rw [Text.spelledAlike_iff, ← Text.lower_eq_lower_iff, lower_csv, Text.keyword,
      ← String.toList_inj, String.toList_ofList]
  rw [← csv_iff, read?]
  constructor
  · intro found
    simpa using Text.mem_of_lookUp?_eq_some found
  · intro is_csv
    rw [Text.lookUp?, is_csv]
    rfl

/-- The rows have commas exactly if the environment asks for it. -/
theorem Format.ofEnvironment_eq_csv_iff
    {environment : Environment} :
    ofEnvironment environment = .csv ↔ AsksForCsv environment := by
  have isName : Environment.isName variableName = true := by decide
  unfold AsksForCsv ofEnvironment Environment.read?
  simp only [← Environment.text?_eq_some_iff isName]
  cases environment.text? variableName with
  | none => simp
  | some text =>
      have trimmed_iff :
          read? (String.ofList (Text.trim text.toList)) = some .csv ↔
            Text.SpelledAlike text "csv" := by
        rw [read?_eq_csv_iff, Text.spelledAlike_iff, String.toList_ofList, Text.trim_trim,
          Text.spelledAlike_iff]
      simp [← trimmed_iff, Option.getD_eq_iff]

/-! ## What the command prints and counts -/

/-- The lines that the command prints: the whole table if there are no arguments, and else the row
of every argument that stands for something. -/
def rows
    (format : Format)
    (arguments : List String) : List String :=
  if arguments.isEmpty then
    header format :: Code.all.map (codeRow format)
  else
    (arguments.filterMap Reading.ofText?).map (row format)

/-- Standard output does not depend on the environment, but for the format. -/
theorem lines_run
    (environment : Environment)
    (arguments : List String) :
    (run environment arguments).lines = rows (Format.ofEnvironment environment) arguments := by
  cases arguments with
  | nil => simp [run, command, print, rows]
  | cons argument rest =>
      rw [run_of_ne_nil environment (List.cons_ne_nil argument rest)]
      rfl

/-- The failures do not depend on the environment at all. -/
theorem failures_run
    (environment : Environment)
    (arguments : List String) :
    (run environment arguments).failures = (unread arguments).length := by
  cases arguments with
  | nil => simp [run, command, print, unread]
  | cons argument rest => exact (showsEach environment (List.cons_ne_nil argument rest)).failures_eq

/-! ## Arguments that are spelled alike -/

theorem filterMap_ofText?_eq
    {arguments others : List String}
    (alike : List.Forall₂ Text.SpelledAlike arguments others) :
    arguments.filterMap Reading.ofText? = others.filterMap Reading.ofText? := by
  induction alike with
  | nil => rfl
  | cons alike _ inductionHypothesis =>
      rw [List.filterMap_cons, List.filterMap_cons, Reading.ofText?_eq_of_spelledAlike alike,
        inductionHypothesis]

theorem rows_eq
    {arguments others : List String}
    (alike : List.Forall₂ Text.SpelledAlike arguments others)
    (format : Format) : rows format arguments = rows format others := by
  have empty_eq : arguments.isEmpty = others.isEmpty := by
    cases alike <;> rfl
  rw [rows, rows, empty_eq, filterMap_ofText?_eq alike]

theorem length_unread_eq
    {arguments others : List String}
    (alike : List.Forall₂ Text.SpelledAlike arguments others) :
    (unread arguments).length = (unread others).length := by
  have total := length_filterMap_add_length_unread arguments
  rw [filterMap_ofText?_eq alike, alike.length_eq,
    ← length_filterMap_add_length_unread others] at total
  omega

/-- The variables with the settings for messages and logs. -/
def settingVariables : List String :=
  [Settings.levelVariable, Settings.flushVariable, Config.capacityVariable]

/-- What the command does with two lists of arguments of the same meaning. -/
structure DependsOnSpelling (arguments others : List String) : Prop where
  /-- The exit code is the same, in whatever two environments the command is run. -/
  exitCode_eq :
    ∀ first second : Environment,
      (run first arguments).exitCode = (run second others).exitCode
  /-- The output is the same in two environments that ask for the same format. -/
  standardOutput_eq :
    ∀ first second : Environment, (AsksForCsv first ↔ AsksForCsv second) →
      (run first arguments).standardOutput = (run second others).standardOutput
  /-- Rows have commas if the environment asks for them, and are plain otherwise. -/
  format_eq :
    ∀ environment : Environment,
      (AsksForCsv environment → Format.ofEnvironment environment = .csv) ∧
        (¬AsksForCsv environment → Format.ofEnvironment environment = .plain)
  /-- Environments that differ in the settings for messages and logs only have the same output and
  the same exit code. -/
  of_settings :
    ∀ first second : Environment,
      (∀ name, name ∉ settingVariables → first.bytes? name = second.bytes? name) →
        (run first arguments).standardOutput = (run second arguments).standardOutput ∧
          (run first arguments).exitCode = (run second arguments).exitCode

theorem Format.ofEnvironment_eq
    {first second : Environment}
    (same : AsksForCsv first ↔ AsksForCsv second) :
    ofEnvironment first = ofEnvironment second := by
  rw [← ofEnvironment_eq_csv_iff, ← ofEnvironment_eq_csv_iff] at same
  cases first_eq : ofEnvironment first <;> cases second_eq : ofEnvironment second <;>
    simp [first_eq, second_eq] at same ⊢

theorem standardOutput_run_eq
    {arguments others : List String}
    (alike : List.Forall₂ Text.SpelledAlike arguments others)
    {first second : Environment}
    (same : AsksForCsv first ↔ AsksForCsv second) :
    (run first arguments).standardOutput = (run second others).standardOutput := by
  rw [Outcome.standardOutput, Outcome.standardOutput, lines_run, lines_run,
    Format.ofEnvironment_eq same, rows_eq alike]

theorem exitCode_run_eq
    {arguments others : List String}
    (alike : List.Forall₂ Text.SpelledAlike arguments others)
    (first second : Environment) :
    (run first arguments).exitCode = (run second others).exitCode := by
  rw [Outcome.exitCode, Outcome.exitCode, failures_run, failures_run, length_unread_eq alike]

/-- Arguments that are spelled alike one by one have the same meaning to the command. -/
theorem dependsOnSpelling
    {arguments others : List String}
    (alike : List.Forall₂ Text.SpelledAlike arguments others) :
    DependsOnSpelling arguments others where
  exitCode_eq := exitCode_run_eq alike
  standardOutput_eq _ _ same := standardOutput_run_eq alike same
  format_eq environment := by
    rw [← Format.ofEnvironment_eq_csv_iff]
    cases Format.ofEnvironment environment <;> simp
  of_settings first second same := by
    have bytes_eq := same Format.variableName (by decide)
    have same_format : AsksForCsv first ↔ AsksForCsv second := by
      rw [AsksForCsv, AsksForCsv, bytes_eq]
    have itself : List.Forall₂ Text.SpelledAlike arguments arguments :=
      List.forall₂_same.2 fun argument _ => Text.SpelledAlike.refl argument
    exact ⟨standardOutput_run_eq itself same_format, exitCode_run_eq itself first second⟩

/-- Names, literals and texts that stand for nothing may all be written in other ways. -/
theorem dependsOnSpelling_of_padded_capitals :
    List.Forall₂ Text.SpelledAlike
        ["mpr_status_ready", "0x7E", " +62", "0X+3e", "linked"]
        ["\tMpr_Status_READY ", "0X7e\u2003", "+62", "0x+3E", "LinKed\n"] ∧
      DependsOnSpelling
        ["mpr_status_ready", "0x7E", " +62", "0X+3e", "linked"]
        ["\tMpr_Status_READY ", "0X7e\u2003", "+62", "0x+3E", "LinKed\n"] :=
  have alike : List.Forall₂ Text.SpelledAlike
      ["mpr_status_ready", "0x7E", " +62", "0X+3e", "linked"]
      ["\tMpr_Status_READY ", "0X7e\u2003", "+62", "0x+3E", "LinKed\n"] := by
    decide +kernel
  ⟨alike, dependsOnSpelling alike⟩

end Table
end ObjectStatus
