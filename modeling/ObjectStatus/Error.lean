import ObjectStatus.Text.Quoted
import ObjectStatus.Text.Record
import ObjectStatus.Word.Printer

/-!
# Errors

What can go wrong when a status is read from a number or a text, and when a cell is asked to move.
Each error carries what its message needs.
-/

namespace ObjectStatus

/-- Why a status could not be read or a cell could not move. -/
inductive Error
  /-- The byte is the value of no code. -/
  | unknownValue (byte : UInt8)
  /-- The number does not fit a byte. -/
  | outOfRange (value : Int)
  /-- The text is neither a name nor a literal. -/
  | unknownName (text : String)
  /-- The cell holds another word than the expected code. -/
  | mismatch (expected : Code) (found : Word)
  /-- The code is no stage of the lifecycle. -/
  | notLifecycle (code : Code)
  /-- The word carries the bit of an expired object. -/
  | expired (found : Word)
  deriving DecidableEq

namespace Error

/-- What a user is told. -/
def message : Error → String
  | .unknownValue byte => "unknown status value " ++ String.ofList (Numeral.hexByte byte)
  | .outOfRange value => "status value " ++ String.ofList (Numeral.signedDecimal value) ++
      " out of range"
  | .unknownName text => "unknown status name '" ++ text ++ "'"
  | .mismatch expected found =>
      "status mismatch: expected " ++ expected.name ++ ", found " ++ found.text
  | .notLifecycle code => code.name ++ " is not a lifecycle stage"
  | .expired found => "status " ++ found.text ++ " has expired"

/-- What a developer is shown: the kind of the error and all that it carries. -/
def debugText : Error → String
  | .unknownValue byte => "UnknownValue(" ++ String.ofList (Numeral.decimal byte.toNat) ++ ")"
  | .outOfRange value => "OutOfRange(" ++ String.ofList (Numeral.signedDecimal value) ++ ")"
  | .unknownName text => "UnknownName(" ++ Text.quoted text ++ ")"
  | .mismatch expected found =>
      Text.Record.oneLine
        ⟨"Mismatch", [("expected", expected.title), ("found", found.debugText)]⟩
  | .notLifecycle code => "NotLifecycle(" ++ code.title ++ ")"
  | .expired found => "Expired(" ++ found.debugText ++ ")"

end Error
end ObjectStatus
