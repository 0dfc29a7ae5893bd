import ObjectStatus.Text.Layout
import ObjectStatus.Text.Numeral
import ObjectStatus.Word

/-!
# Words as text

A word that is exactly a code is shown by the name of the code, and any other word by its byte in
hexadecimal. A layout moves a name about in its column and has no effect on a byte.
-/

namespace ObjectStatus

/-- The name of the code, laid out. -/
def Code.laidOut
    (layout : Text.Layout)
    (code : Code) : String :=
  String.ofList (layout.place code.name.toList)

namespace Word

/-- The byte of the word as `0x` and two hexadecimal digits. -/
def hex (word : Word) : String :=
  String.ofList (Numeral.hexByte word.raw)

/-- The word as a reader sees it, laid out when it has a name. -/
def laidOut
    (layout : Text.Layout)
    (word : Word) : String :=
  match word.known with
  | some code => code.laidOut layout
  | none => word.hex

/-- The word as a reader sees it. -/
def text (word : Word) : String :=
  match word.known with
  | some code => code.name
  | none => word.hex

/-- The word with its byte and, if it has one, its name. -/
def debugText (word : Word) : String :=
  match word.known with
  | some code => "StatusBits(" ++ word.hex ++ " " ++ code.name ++ ")"
  | none => "StatusBits(" ++ word.hex ++ ")"

/-- The plain text of a word is its text in the layout that asks for nothing. -/
theorem laidOut_default (word : Word) : word.laidOut {} = word.text := by
  unfold laidOut text
  cases word.known with
  | none => rfl
  | some code => simp [Code.laidOut]

end Word
end ObjectStatus
