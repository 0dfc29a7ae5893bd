import ObjectStatus.Text.ExtendingMark
import ObjectStatus.Text.Ignorable
import ObjectStatus.Text.Unprintable

/-!
# Quoted text

A quoted text stands between double quotes and shows every character that a reader can see. The
quote and the backslash follow a backslash, four control characters have a letter of their own, and
every other character that cannot be shown is written by its number in hexadecimal.
-/

namespace ObjectStatus
namespace Text

/-- The character can be shown as it is: it is printable, stands by itself and has a glyph. -/
def isShown (character : Char) : Bool :=
  !CharRange.someHolds unprintableRanges character &&
    !CharRange.someHolds extendingMarkRanges character &&
    !CharRange.someHolds ignorableRanges character

/-- The letter that stands for a character behind a backslash, if it has one. -/
def escapeLetter? : Char → Option Char
  | '\x22' => some '\x22'
  | '\\' => some '\\'
  | '\x00' => some '0'
  | '\t' => some 't'
  | '\n' => some 'n'
  | '\r' => some 'r'
  | _ => none

/-- A character as it is written between quotes. -/
def quotedChar (character : Char) : List Char :=
  match escapeLetter? character with
  | some letter => ['\\', letter]
  | none =>
      if isShown character then
        [character]
      else
        ['\\', 'u', '\x7b'] ++ Nat.toDigits 16 character.toNat ++ ['\x7d']

/-- A text between double quotes. -/
def quoted (text : String) : String :=
  String.ofList (['\x22'] ++ text.toList.flatMap quotedChar ++ ['\x22'])

end Text
end ObjectStatus
