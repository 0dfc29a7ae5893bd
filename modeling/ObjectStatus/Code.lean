/-!
# Status codes

The status of a mapped object is one byte. Eight of its values have a name: five stages that an
object passes through, the mark of an object that is gone, and two sentinels that no object holds
in its life. The values are shared with every peer on the network and never change.

The later stages all keep the bit of `staged`, so progress is asked for by bits and not by equality;
`ObjectStatus.Word` does that.
-/

namespace ObjectStatus

/-- A named value of the status byte. -/
inductive Code
  /-- Nothing is known about the object yet. -/
  | undefined
  /-- The object timed out or was released. -/
  | expired
  /-- The object exists locally and has not been announced. -/
  | staged
  /-- The object is announced; the length and type of its endpoints are awaited. -/
  | waiting
  /-- Every prerequisite is known and the object may be activated. -/
  | ready
  /-- The object is established and carries data. -/
  | active
  /-- A value kept free. -/
  | reserved
  /-- The value that matches every status in a query. -/
  | any
  deriving DecidableEq

namespace Code

/-- Every code, in increasing order of value. -/
def all : List Code :=
  [.undefined, .expired, .staged, .waiting, .ready, .active, .reserved, .any]

/-- The stages of a living object, earliest first. -/
def lifecycle : List Code :=
  [.undefined, .staged, .waiting, .ready, .active]

/-- The codes that stand outside the life of an object. -/
def sentinels : List Code :=
  [.reserved, .any]

/-- The code of an object about which nothing is known. -/
def initial : Code := .undefined

/-- The byte that a code stands for. -/
def value : Code → UInt8
  | .undefined => 0x00
  | .expired => 0x01
  | .staged => 0x02
  | .waiting => 0x0E
  | .ready => 0x36
  | .active => 0x7E
  | .reserved => 0x80
  | .any => 0xFF

/-- The canonical name of a code, in upper case. -/
def name : Code → String
  | .undefined => "UNDEFINED"
  | .expired => "EXPIRED"
  | .staged => "STAGED"
  | .waiting => "WAITING"
  | .ready => "READY"
  | .active => "ACTIVE"
  | .reserved => "RESERVED"
  | .any => "ANY"

/-- The name of a code with a capital first letter only, as debug texts show it. -/
def title : Code → String
  | .undefined => "Undefined"
  | .expired => "Expired"
  | .staged => "Staged"
  | .waiting => "Waiting"
  | .ready => "Ready"
  | .active => "Active"
  | .reserved => "Reserved"
  | .any => "Any"

/-- The code whose value is exactly this byte, if there is one. -/
def ofValue? (byte : UInt8) : Option Code :=
  all.find? fun code => code.value == byte

/-- The code is a stage of a living object. -/
def isLifecycle (code : Code) : Bool :=
  lifecycle.contains code

/-- The code is a sentinel. -/
def isSentinel (code : Code) : Bool :=
  sentinels.contains code

/-- The code marks an expired object. -/
def isExpired (code : Code) : Bool :=
  code == .expired

/-- The table of codes leaves none out. -/
theorem mem_all (code : Code) : code ∈ all := by
  cases code <;> decide

/-- A code is found again from its value. -/
@[simp] theorem ofValue?_value (code : Code) : ofValue? code.value = some code := by
  cases code <;> rfl

/-- Only the value of a code is read as that code. -/
theorem ofValue?_eq_some_iff
    {byte : UInt8}
    {code : Code} :
    ofValue? byte = some code ↔ code.value = byte := by
  constructor
  · intro found
    simpa using List.find?_some found
  · rintro rfl
    exact ofValue?_value code

end Code
end ObjectStatus
