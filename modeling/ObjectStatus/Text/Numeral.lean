/-!
# Numerals

Reading and writing whole numbers in a base up to sixteen. A numeral is one or more digits, with
any number of leading zeros, after at most one plus sign; only a signed numeral may have a minus
sign in its place. Nothing else is skipped, and a value outside the wanted range is refused and
never cut down.
-/

namespace ObjectStatus
namespace Numeral

/-- The value of a digit, letters of either case counting on from ten. -/
def digitValue? (character : Char) : Option Nat :=
  if '0' ≤ character ∧ character ≤ '9' then
    some (character.toNat - '0'.toNat)
  else if 'a' ≤ character ∧ character ≤ 'f' then
    some (character.toNat - 'a'.toNat + 10)
  else if 'A' ≤ character ∧ character ≤ 'F' then
    some (character.toNat - 'A'.toNat + 10)
  else
    none

/-- The value of a digit of this base. -/
def digit?
    (base : Nat)
    (character : Char) : Option Nat :=
  (digitValue? character).filter fun value => value < base

/-- The number that digits make when they follow the digits of `total`. -/
def digitsFrom?
    (base total : Nat) : List Char → Option Nat
  | [] => some total
  | character :: rest =>
      match digit? base character with
      | none => none
      | some value => digitsFrom? base (total * base + value) rest

/-- The number that one or more digits make. -/
def digits?
    (base : Nat)
    (text : List Char) : Option Nat :=
  if text.isEmpty then none else digitsFrom? base 0 text

/-- The number that an unsigned numeral stands for. -/
def natural?
    (base : Nat) : List Char → Option Nat
  | '+' :: digits => digits? base digits
  | digits => digits? base digits

/-- The number that an unsigned numeral stands for, when it is below the bound. -/
def below?
    (bound base : Nat)
    (text : List Char) : Option Nat :=
  (natural? base text).filter fun value => value < bound

/-- The number that a signed decimal numeral stands for. -/
def integer? : List Char → Option Int
  | '-' :: digits => (digits? 10 digits).map fun value => -(value : Int)
  | text => (natural? 10 text).map fun value => (value : Int)

/-- The number that a signed decimal numeral stands for, when two's complement of this many bits
can hold it. -/
def signed?
    (bits : Nat)
    (text : List Char) : Option Int :=
  (integer? text).filter fun value =>
    -Int.pow 2 (bits - 1) ≤ value && value < Int.pow 2 (bits - 1)

/-- A number in decimal digits without leading zeros. -/
def decimal (value : Nat) : List Char :=
  Nat.toDigits 10 value

/-- A number in decimal digits, with a minus sign when it is negative. -/
def signedDecimal : Int → List Char
  | .ofNat value => decimal value
  | .negSucc value => '-' :: decimal (value + 1)

/-- A number in at least this many digits, with zeros in front. -/
def padded
    (base count value : Nat) : List Char :=
  (Nat.toDigits base value).leftpad count '0'

/-- A byte as `0x` and two lower-case hexadecimal digits. -/
def hexByte (byte : UInt8) : List Char :=
  '0' :: 'x' :: padded 16 2 byte.toNat

/-- A byte as `0b` and eight binary digits. -/
def binaryByte (byte : UInt8) : List Char :=
  '0' :: 'b' :: padded 2 8 byte.toNat

@[simp] theorem digitsFrom?_nil (base total : Nat) :
    digitsFrom? base total [] = some total := rfl

@[simp] theorem digits?_nil (base : Nat) : digits? base [] = none := rfl

end Numeral
end ObjectStatus
