import ObjectStatus.Error
import ObjectStatus.Text.Keyword

/-!
# Reading codes and words

A code is read from a name or from a byte literal that is the value of a code; a word is read from
any byte literal. A name may be in any case and may have one of two labels in front. A literal is a
numeral below 256, in base sixteen behind `0x` or `0X` and in base ten otherwise. Blanks around
either are dropped.
-/

namespace ObjectStatus

/-- The byte that a literal stands for. The base is chosen before a sign is looked for, so a sign
may follow `0x` and may not precede it. -/
def byteLiteral? (literal : List Char) : Option UInt8 :=
  match literal with
  | '0' :: 'x' :: digits => (Numeral.below? 256 16 digits).map UInt8.ofNat
  | '0' :: 'X' :: digits => (Numeral.below? 256 16 digits).map UInt8.ofNat
  | digits => (Numeral.below? 256 10 digits).map UInt8.ofNat

namespace Code

/-- The labels that may stand in front of a name, the longer one first. -/
def labels : List (List Char) :=
  ["MPR_STATUS_".toList, "STATUS_".toList]

/-- The text without the first label that it begins with. At most one label is taken off. -/
def dropLabel (text : List Char) : List Char :=
  (labels.findSome? fun label => label.isPrefixOf? text).getD text

/-- The code that a trimmed text names, in any case and with or without a label. -/
def ofName? (text : List Char) : Option Code :=
  all.find? fun code => code.name.toList == dropLabel (Text.upper text)

/-- The code of a byte. -/
def ofByte (byte : UInt8) : Except Error Code :=
  match ofValue? byte with
  | some code => .ok code
  | none => .error (.unknownValue byte)

/-- The code of a number. A number that is no byte is refused as it stands. -/
def ofInt (value : Int) : Except Error Code :=
  if 0 ≤ value ∧ value < 256 then
    ofByte (UInt8.ofNat value.toNat)
  else
    .error (.outOfRange value)

/-- The code that a text stands for. A literal whose byte is no code is reported by its byte, and
any other text by itself, trimmed and otherwise as it was written. -/
def read (text : String) : Except Error Code :=
  let trimmed := Text.trim text.toList
  match ofName? trimmed with
  | some code => .ok code
  | none =>
      match byteLiteral? trimmed with
      | some byte => ofByte byte
      | none => .error (.unknownName (String.ofList trimmed))

end Code

namespace Word

/-- The word that a literal stands for. -/
def read (text : String) : Except Error Word :=
  let trimmed := Text.trim text.toList
  match byteLiteral? trimmed with
  | some byte => .ok ⟨byte⟩
  | none => .error (.unknownName (String.ofList trimmed))

end Word

/-- What a text stands for: a code, or a word that is no code. -/
inductive Reading
  | code (code : Code)
  | word (word : Word)
  deriving DecidableEq

namespace Reading

/-- A text is read as a code if it can be, and else as a word. -/
def ofText? (text : String) : Option Reading :=
  match Code.read text with
  | .ok found => some (.code found)
  | .error _ =>
      match Word.read text with
      | .ok found => some (.word found)
      | .error _ => none

end Reading
end ObjectStatus
