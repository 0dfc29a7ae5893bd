import ObjectStatus.Text.Keyword

/-!
# Levels of messages

Messages are told apart by how much they matter. The effective level of a process is the least
important one that is still written; at `off` nothing is written.
-/

namespace ObjectStatus

/-- How much a message matters, or how much is to be written. -/
inductive Level
  | off
  | error
  | warn
  | info
  | debug
  | trace
  deriving DecidableEq

namespace Level

/-- Every level, from nothing to everything. -/
def all : List Level :=
  [.off, .error, .warn, .info, .debug, .trace]

/-- The number of a level. -/
def number : Level → UInt8
  | .off => 0
  | .error => 1
  | .warn => 2
  | .info => 3
  | .debug => 4
  | .trace => 5

/-- The level with this number; every number above the last level means all of them. -/
def ofNumber (number : UInt8) : Level :=
  (all.find? fun level => level.number == number).getD .trace

/-- The name of a level. -/
def name : Level → String
  | .off => "Off"
  | .error => "Error"
  | .warn => "Warn"
  | .info => "Info"
  | .debug => "Debug"
  | .trace => "Trace"

/-- What stands in front of a message; all tags that are written have the same width. -/
def tag : Level → String
  | .off => ""
  | .error => "[mpr ERROR]"
  | .warn => "[mpr WARN] "
  | .info => "[mpr INFO] "
  | .debug => "[mpr DEBUG]"
  | .trace => "[mpr TRACE]"

instance : LE Level := ⟨fun first second => first.number ≤ second.number⟩

instance : LT Level := ⟨fun first second => first.number < second.number⟩

instance (first second : Level) : Decidable (first ≤ second) :=
  inferInstanceAs (Decidable (first.number ≤ second.number))

instance (first second : Level) : Decidable (first < second) :=
  inferInstanceAs (Decidable (first.number < second.number))

/-- The spellings of the levels: their names and their numbers. -/
def spellings : List (String × Level) :=
  [("off", .off), ("0", .off), ("error", .error), ("1", .error), ("warn", .warn), ("2", .warn),
    ("info", .info), ("3", .info), ("debug", .debug), ("4", .debug), ("trace", .trace),
    ("5", .trace)]

/-- The level that a text stands for. -/
def read? (text : String) : Option Level :=
  Text.lookUp? spellings text

/-- The levels that admit more than this one. -/
def above (level : Level) : List Level :=
  all.filter fun other => level < other

/-- A level is found again from its number. -/
@[simp] theorem ofNumber_number (level : Level) : ofNumber level.number = level := by
  cases level <;> rfl

end Level

/-- A message to the user of a process. -/
structure Message where
  level : Level
  text : String
  deriving DecidableEq

namespace Message

/-- The message as it is written: its tag, a blank, its text and the end of the line. -/
def line (message : Message) : String :=
  message.level.tag ++ " " ++ message.text ++ "\n"

/-- The message is written at this effective level. -/
def AdmittedBy
    (message : Message)
    (level : Level) : Prop :=
  message.level ≠ .off ∧ message.level ≤ level

instance
    (message : Message)
    (level : Level) : Decidable (message.AdmittedBy level) :=
  inferInstanceAs (Decidable (_ ∧ _))

/-- Messages one after the other. -/
def render (messages : List Message) : String :=
  String.join (messages.map line)

end Message
end ObjectStatus
