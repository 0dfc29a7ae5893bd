/-!
# Ranges of characters

A class of characters is given as a list of ranges of code points, each with both ends.
-/

namespace ObjectStatus
namespace Text

/-- The code points from `first` to `last`, both included. -/
structure CharRange where
  first : Nat
  last : Nat
  deriving DecidableEq

namespace CharRange

/-- The character lies in the range. -/
def holds
    (range : CharRange)
    (character : Char) : Bool :=
  range.first ≤ character.toNat && character.toNat ≤ range.last

/-- The character lies in one of the ranges. -/
def someHolds
    (ranges : List CharRange)
    (character : Char) : Bool :=
  ranges.any fun range => range.holds character

/-- A character is in a class exactly when one of its ranges spans the code point. -/
theorem someHolds_iff
    {ranges : List CharRange}
    {character : Char} :
    someHolds ranges character = true ↔
      ∃ range ∈ ranges,
        range.first ≤ character.toNat ∧ character.toNat ≤ range.last := by
  simp [someHolds, holds]

end CharRange
end Text
end ObjectStatus
