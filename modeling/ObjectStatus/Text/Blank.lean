import ObjectStatus.Text.CharRange

/-!
# Blanks

The blanks are the twenty-five characters with the property White_Space of the Unicode standard.
Every reader of this library drops the blanks at both ends of its text first, and none of those
inside.
-/

namespace ObjectStatus
namespace Text

/-- The ranges of the characters with the property White_Space. -/
def blankRanges : List CharRange :=
  [⟨0x09, 0x0D⟩, ⟨0x20, 0x20⟩, ⟨0x85, 0x85⟩, ⟨0xA0, 0xA0⟩, ⟨0x1680, 0x1680⟩,
    ⟨0x2000, 0x200A⟩, ⟨0x2028, 0x2029⟩, ⟨0x202F, 0x202F⟩, ⟨0x205F, 0x205F⟩, ⟨0x3000, 0x3000⟩]

/-- The character is a blank. -/
def isBlank (character : Char) : Bool :=
  CharRange.someHolds blankRanges character

/-- The text without the blanks at its end. -/
def trimEnd (text : List Char) : List Char :=
  (text.reverse.dropWhile isBlank).reverse

/-- The text without the blanks at both ends. -/
def trim (text : List Char) : List Char :=
  trimEnd (text.dropWhile isBlank)

/-- The blanks number twenty-five. -/
example : (blankRanges.map fun range => range.last + 1 - range.first).sum = 25 := by decide

@[simp] theorem trim_nil : trim [] = [] := rfl

/-- A text that neither begins nor ends with a blank is left as it is. -/
theorem trim_eq_self
    {text : List Char}
    (head_plain : ∀ character ∈ text.head?, isBlank character = false)
    (last_plain : ∀ character ∈ text.getLast?, isBlank character = false) :
    trim text = text := by
  have dropped :
      ∀ characters : List Char,
        (∀ character ∈ characters.head?, isBlank character = false) →
          characters.dropWhile isBlank = characters := by
    intro characters plain
    cases characters with
    | nil => rfl
    | cons character rest => simp [plain character (by simp)]
  unfold trim trimEnd
  rw [dropped text head_plain, dropped text.reverse (by simpa using last_plain),
    List.reverse_reverse]

end Text
end ObjectStatus
