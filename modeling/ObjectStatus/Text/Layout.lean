/-!
# Column layout

A layout cuts a text to at most so many characters and then fills it up to at least so many. What
is missing goes before the text, behind it, or to both sides; when both sides cannot get the same,
the side behind gets one character more.
-/

namespace ObjectStatus
namespace Text

/-- The side of a column at which a text stands. -/
inductive Alignment
  | left
  | right
  | center
  deriving DecidableEq

/-- How a text is laid out in a column. -/
structure Layout where
  /-- The character that fills the column up. -/
  fill : Char := ' '
  /-- The side at which the text stands. -/
  alignment : Alignment := .left
  /-- Asks for zeros in front of a number. A text has no use for it. -/
  zeros : Bool := false
  /-- The least number of characters. -/
  width : Nat := 0
  /-- The greatest number of characters kept of the text. -/
  precision : Option Nat := none

namespace Layout

/-- The part of the text that the layout keeps. -/
def keep
    (layout : Layout)
    (text : List Char) : List Char :=
  match layout.precision with
  | none => text
  | some limit => text.take limit

/-- How many of the missing characters stand before the text. -/
def before
    (layout : Layout)
    (missing : Nat) : Nat :=
  match layout.alignment with
  | .left => 0
  | .right => missing
  | .center => missing / 2

/-- The text in its column. -/
def place
    (layout : Layout)
    (text : List Char) : List Char :=
  let kept := layout.keep text
  let missing := layout.width - kept.length
  let before := layout.before missing
  List.replicate before layout.fill ++ kept ++ List.replicate (missing - before) layout.fill

/-- No more characters stand before the text than are missing. -/
theorem before_le
    (layout : Layout)
    (missing : Nat) : layout.before missing ≤ missing := by
  unfold before
  split
  · exact Nat.zero_le missing
  · exact Nat.le_refl missing
  · exact Nat.div_le_self missing 2

/-- A column is as wide as asked for, or as wide as the text that is kept. -/
@[simp] theorem length_place
    (layout : Layout)
    (text : List Char) :
    (layout.place text).length = max layout.width (layout.keep text).length := by
  have bound := layout.before_le (layout.width - (layout.keep text).length)
  simp only [place, List.length_append, List.length_replicate]
  omega

/-- The layout that asks for nothing shows the text as it is. -/
@[simp] theorem place_default (text : List Char) : ({} : Layout).place text = text := by
  simp [place, keep, before]

end Layout
end Text
end ObjectStatus
