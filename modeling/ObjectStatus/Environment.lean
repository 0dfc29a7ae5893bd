import ObjectStatus.Reading
import ObjectStatus.Text.Utf8

/-!
# Environments

The environment of a process gives bytes to names. A variable whose bytes are no text counts as
unset, and so does a name that no variable can have. What a variable means is read from its text
after the blanks at both ends are dropped.
-/

namespace ObjectStatus

/-- The bytes of every variable that is set. -/
structure Environment where
  bytes? : String → Option (List UInt8)

namespace Environment

/-- The environment in which nothing is set. -/
def empty : Environment :=
  ⟨fun _ => none⟩

/-- The environment after a variable is set. -/
def set
    (environment : Environment)
    (name : String)
    (bytes : List UInt8) : Environment :=
  ⟨fun other => if other = name then some bytes else environment.bytes? other⟩

/-- The environment after a variable is unset. -/
def unset
    (environment : Environment)
    (name : String) : Environment :=
  ⟨fun other => if other = name then none else environment.bytes? other⟩

/-- A variable can have this name: it is not empty and holds neither `=` nor a zero character. -/
def isName (name : String) : Bool :=
  let characters := name.toList
  !characters.isEmpty && !characters.contains '=' && !characters.contains '\x00'

/-- The text of a variable. -/
def text?
    (environment : Environment)
    (name : String) : Option String :=
  if isName name then (environment.bytes? name).bind Text.ofUtf8? else none

/-- What a variable means to a reader that is given its text without the blanks around it. -/
def read?
    {α : Type}
    (environment : Environment)
    (reader : String → Option α)
    (name : String) : Option α :=
  (environment.text? name).bind fun text => reader (String.ofList (Text.trim text.toList))

/-- The texts that switch something on. -/
def switchedOn : List String :=
  ["1", "true", "yes", "on"]

/-- A text switches something on; every other text switches it off. -/
def isSwitchedOn (text : String) : Bool :=
  switchedOn.contains (Text.keyword text)

/-- The state of a switch, which is `default` while the variable is unset. -/
def switch
    (environment : Environment)
    (name : String)
    (default : Bool) : Bool :=
  match environment.text? name with
  | some text => isSwitchedOn text
  | none => default

/-- Reads an unsigned number that fits this many bits. -/
def unsignedReader
    (bits : Nat)
    (text : String) : Option Nat :=
  Numeral.below? (Nat.pow 2 bits) 10 text.toList

/-- Reads a signed number that fits this many bits. -/
def signedReader
    (bits : Nat)
    (text : String) : Option Int :=
  Numeral.signed? bits text.toList

/-- Reads the two truth values, spelled exactly so. -/
def truthReader (text : String) : Option Bool :=
  [("true", true), ("false", false)].lookup text

/-- Reads a code. -/
def codeReader (text : String) : Option Code :=
  (Code.read text).toOption

/-- Reads a word. -/
def wordReader (text : String) : Option Word :=
  (Word.read text).toOption

@[simp] theorem bytes?_set_self
    (environment : Environment)
    (name : String)
    (bytes : List UInt8) :
    (environment.set name bytes).bytes? name = some bytes := by
  simp [set]

@[simp] theorem bytes?_unset_self
    (environment : Environment)
    (name : String) :
    (environment.unset name).bytes? name = none := by
  simp [unset]

end Environment
end ObjectStatus
