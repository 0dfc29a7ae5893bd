import ObjectStatus.Config
import ObjectStatus.Reading

/-!
# The status table

The command shows every code, or one row for each of its arguments: the row of a code for an
argument that is read as a code, and the row of a word for any other byte. An argument that is
neither is reported and does not stop the rows after it.
-/

namespace ObjectStatus
namespace Table

/-- How rows are written. -/
inductive Format
  | plain
  | csv
  deriving DecidableEq

namespace Format

/-- The name of a format, as debug texts show it. -/
def title : Format → String
  | .plain => "Plain"
  | .csv => "Csv"

/-- The format that a text stands for. -/
def read? (text : String) : Option Format :=
  Text.lookUp? [("plain", .plain), ("csv", .csv)] text

/-- The variable with the format. -/
def variableName : String := "MPR_STATUS_TABLE_FORMAT"

/-- The format that the environment asks for. -/
def ofEnvironment (environment : Environment) : Format :=
  (environment.read? read? variableName).getD .plain

end Format

/-- A text at the left of a column. -/
def leftColumn
    (width : Nat)
    (text : List Char) : List Char :=
  Text.Layout.place { width := width } text

/-- A text at the right of a column. -/
def rightColumn
    (width : Nat)
    (text : List Char) : List Char :=
  Text.Layout.place { width := width, alignment := .right } text

/-- The four columns of a plain row. -/
def plainColumns (name value hex bits : List Char) : String :=
  String.ofList <|
    leftColumn 10 name ++ [' '] ++ rightColumn 5 value ++ [' ', ' '] ++ leftColumn 4 hex ++
      [' ', ' '] ++ leftColumn 10 bits

/-- The first line of the whole table. -/
def header : Format → String
  | .plain => plainColumns "NAME".toList "VALUE".toList "HEX".toList "BITS".toList
  | .csv => "name,value,hex,bits"

/-- The row of a code. -/
def codeRow
    (format : Format)
    (code : Code) : String :=
  let value := Numeral.decimal code.value.toNat
  let hex := Numeral.hexByte code.value
  let bits := Numeral.binaryByte code.value
  match format with
  | .plain => plainColumns code.name.toList value hex bits
  | .csv => ",".intercalate
      [code.name, String.ofList value, String.ofList hex, String.ofList bits]

/-- A truth value in a plain row. -/
def yesOrNo (value : Bool) : String :=
  if value then "yes" else "no"

/-- The row of a word. -/
def wordRow
    (format : Format)
    (word : Word) : String :=
  match format with
  | .plain =>
      word.hex ++ "  stage=" ++ word.stage.name ++ " ready=" ++ yesOrNo word.isReady ++
        " active=" ++ yesOrNo word.isActive ++ " expired=" ++ yesOrNo word.isExpired
  | .csv => ",".intercalate
      [word.hex, word.stage.name, Text.Record.ofBool word.isReady,
        Text.Record.ofBool word.isActive, Text.Record.ofBool word.isExpired]

/-- The row of what an argument stands for. -/
def row
    (format : Format) : Reading → String
  | .code code => codeRow format code
  | .word word => wordRow format word

/-- The report about an argument that stands for nothing. -/
def unreadMessage (argument : String) : Message :=
  ⟨.error, "'" ++ argument ++ "' is not a status name, value or byte"⟩

/-- The message about how the command was started. -/
def startMessage
    (format : Format)
    (config : Config) : Message :=
  ⟨.debug, "format=" ++ format.title ++ " config=" ++ config.debugRecord.oneLine⟩

/-- What a run of the command leaves behind. -/
@[ext]
structure Outcome where
  /-- The lines on standard output. -/
  lines : List String := []
  /-- The messages on standard error. -/
  written : List Message := []
  /-- How many arguments stand for nothing. -/
  failures : Nat := 0
  deriving DecidableEq

namespace Outcome

/-- What is left behind in two parts of a run, one after the other. -/
instance : Append Outcome where
  append first second :=
    { lines := first.lines ++ second.lines
      written := first.written ++ second.written
      failures := first.failures + second.failures }

@[simp] theorem lines_append (first second : Outcome) :
    (first ++ second).lines = first.lines ++ second.lines := rfl

@[simp] theorem written_append (first second : Outcome) :
    (first ++ second).written = first.written ++ second.written := rfl

@[simp] theorem failures_append (first second : Outcome) :
    (first ++ second).failures = first.failures + second.failures := rfl

theorem empty_append (outcome : Outcome) : ({} : Outcome) ++ outcome = outcome := by
  ext1
  · rfl
  · rfl
  · exact Nat.zero_add outcome.failures

theorem append_assoc (first second third : Outcome) :
    first ++ second ++ third = first ++ (second ++ third) := by
  ext1
  · exact List.append_assoc first.lines second.lines third.lines
  · exact List.append_assoc first.written second.written third.written
  · exact Nat.add_assoc first.failures second.failures third.failures

/-- The text on standard output. -/
def standardOutput (outcome : Outcome) : String :=
  String.join (outcome.lines.map fun line => line ++ "\n")

/-- The text on standard error. -/
def standardError (outcome : Outcome) : String :=
  Message.render outcome.written

/-- Zero if every argument was understood, and else one. -/
def exitCode (outcome : Outcome) : UInt32 :=
  if outcome.failures = 0 then 0 else 1

end Outcome

/-- Show the row of an argument, or report that the argument stands for nothing. -/
def showArgument
    (environment : Environment)
    (format : Format)
    (argument : String) : Routine Settings Outcome :=
  match Reading.ofText? argument with
  | some reading => pure { lines := [row format reading] }
  | none => do
      let reported ← Settings.emit environment (unreadMessage argument)
      pure { written := reported, failures := 1 }

/-- Show one argument after the other. -/
def showEach
    (environment : Environment)
    (format : Format) : List String → Routine Settings Outcome
  | [] => pure {}
  | argument :: rest => do
      let first ← showArgument environment format argument
      let others ← showEach environment format rest
      pure (first ++ others)

/-- Show the rows of the arguments, or the whole table if there are none. -/
def print
    (environment : Environment)
    (format : Format)
    (arguments : List String) : Routine Settings Outcome :=
  if arguments.isEmpty then
    pure { lines := header format :: Code.all.map (codeRow format) }
  else
    showEach environment format arguments

/-- The command with these arguments. The settings that the environment asks for are chosen before
the first message. -/
def command
    (environment : Environment)
    (arguments : List String) : Routine Settings Outcome := do
  let config := Config.ofEnvironment environment
  let format := Format.ofEnvironment environment
  config.apply
  let started ← Settings.emit environment (startMessage format config)
  let printed ← print environment format arguments
  pure ({ written := started } ++ printed)

/-- What the command leaves behind when it is run in this environment. -/
def run
    (environment : Environment)
    (arguments : List String) : Outcome :=
  ((command environment arguments).runAlone {}).1

end Table
end ObjectStatus
