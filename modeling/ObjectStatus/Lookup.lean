import ObjectStatus.Reading
import ObjectStatus.Text.Utf8

/-!
# Lookups by plain numbers

Callers that know a status only as a 32-bit number and a name only as bytes up to a zero byte look
it up here. A lookup that finds nothing answers with zero, with minus one, or with no name; a
number outside a byte is never cut down to one.
-/

namespace ObjectStatus
namespace Lookup

/-- The number of a truth value. -/
def ofBool (value : Bool) : Int32 :=
  if value then 1 else 0

/-- The number of a code. -/
def ofCode (code : Code) : Int32 :=
  Int32.ofInt code.value.toNat

/-- The names under which the codes are known to such callers, with their numbers. -/
def constants : List (String × Int32) :=
  Code.all.map fun code => ("MPR_STATUS_" ++ code.name, ofCode code)

/-- The code with this number, if there is one. -/
def code? (number : Int32) : Option Code :=
  (Code.ofInt number.toInt).toOption

/-- The word with this number, if the number is a byte. -/
def word? (number : Int32) : Option Word :=
  if 0 ≤ number.toInt ∧ number.toInt < 256 then
    some ⟨UInt8.ofNat number.toInt.toNat⟩
  else
    none

/-- One if the number is a code, and else zero. -/
def isKnown (number : Int32) : Int32 :=
  ofBool (code? number).isSome

/-- The bytes before the first zero byte. -/
def beforeZero (bytes : List UInt8) : List UInt8 :=
  bytes.takeWhile fun byte => byte != 0

/-- The name of a code as such callers get it, with a zero byte at its end. -/
def closedName : Code → String
  | .undefined => "UNDEFINED\x00"
  | .expired => "EXPIRED\x00"
  | .staged => "STAGED\x00"
  | .waiting => "WAITING\x00"
  | .ready => "READY\x00"
  | .active => "ACTIVE\x00"
  | .reserved => "RESERVED\x00"
  | .any => "ANY\x00"

/-- The bytes of the name of the code with this number, if there is such a code. -/
def nameBytes? (number : Int32) : Option (List UInt8) :=
  (code? number).map fun code => Text.toUtf8 (closedName code)

/-- The name of the code with this number, as it is read from its bytes. -/
def name? (number : Int32) : Option String :=
  (nameBytes? number).bind fun bytes => Text.ofUtf8? (beforeZero bytes)

/-- The number of the code that the bytes before the first zero byte stand for, or minus one. There
may be no bytes at all to look at. -/
def ofName (bytes : Option (List UInt8)) : Int32 :=
  match bytes.bind fun bytes => Text.ofUtf8? (beforeZero bytes) with
  | none => -1
  | some text =>
      match Code.read text with
      | .ok code => ofCode code
      | .error _ => -1

/-- One if the word with the first number has reached the code with the second, and else zero. -/
def hasReached (word stage : Int32) : Int32 :=
  match word? word, code? stage with
  | some word, some code => ofBool (word.hasReached code)
  | _, _ => 0

/-- The number of the stage of a word, or minus one if the number is no byte. -/
def stage (word : Int32) : Int32 :=
  match word? word with
  | some word => ofCode word.stage
  | none => -1

end Lookup
end ObjectStatus
