import ObjectStatus.Table

/-!
# The command line

The command reads the variables that concern it, prints the table and the messages, and exits with
the code of the outcome.
-/

namespace ObjectStatus

/-- The variables that the command looks at. -/
def commandVariables : List String :=
  [Config.capacityVariable, Settings.levelVariable, Settings.flushVariable,
    Table.Format.variableName]

/-- The environment of the running process, as far as the command looks at it. -/
def processEnvironment : IO Environment := do
  let mut environment := Environment.empty
  for name in commandVariables do
    if let some text ← IO.getEnv name then
      environment := environment.set name (Text.toUtf8 text)
  return environment

end ObjectStatus

/-- Run the command. -/
def main (arguments : List String) : IO UInt32 := do
  let outcome := ObjectStatus.Table.run (← ObjectStatus.processEnvironment) arguments
  IO.print outcome.standardOutput
  IO.eprint outcome.standardError
  return outcome.exitCode
