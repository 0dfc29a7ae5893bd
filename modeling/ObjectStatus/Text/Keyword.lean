import ObjectStatus.Text.Blank

/-!
# Keywords

Words that may be written in any case are compared after trimming and after the twenty-six letters
of the Latin alphabet have been folded. No other letter is folded, so a look-alike is no keyword.
-/

namespace ObjectStatus
namespace Text

/-- The text with `a` to `z` in upper case. -/
def upper (text : List Char) : List Char :=
  text.map Char.toUpper

/-- The text with `A` to `Z` in lower case. -/
def lower (text : List Char) : List Char :=
  text.map Char.toLower

/-- The trimmed text in lower case, as keywords are compared. -/
def keyword (text : String) : String :=
  String.ofList (lower (trim text.toList))

/-- The word that a text stands for, taken from a table of spellings in lower case. -/
def lookUp?
    {α : Type}
    (spellings : List (String × α))
    (text : String) : Option α :=
  spellings.lookup (keyword text)

end Text
end ObjectStatus
