/-!
# Text in UTF-8

Bytes are text only if they are UTF-8 in its strict form: no character takes more bytes than it
needs, none is a surrogate, and none is cut short.
-/

namespace ObjectStatus
namespace Text

/-- The text that bytes spell, if they spell one. -/
def ofUtf8? (bytes : List UInt8) : Option String :=
  String.fromUTF8? ⟨bytes.toArray⟩

/-- The bytes that spell a text. -/
def toUtf8 (text : String) : List UInt8 :=
  text.toUTF8.data.toList

/-- A text is read back from its bytes. -/
@[simp] theorem ofUtf8?_toUtf8 (text : String) : ofUtf8? (toUtf8 text) = some text := by
  simp only [ofUtf8?, toUtf8, String.fromUTF8?, Array.toArray_toList]
  exact dif_pos text.isValidUTF8

/-- Bytes spell a text exactly when they are the bytes of this text. -/
theorem ofUtf8?_eq_some_iff
    {bytes : List UInt8}
    {text : String} : ofUtf8? bytes = some text ↔ bytes = toUtf8 text := by
  constructor
  · intro spelled
    unfold ofUtf8? String.fromUTF8? at spelled
    split at spelled
    · obtain rfl := Option.some.inj spelled
      rfl
    · contradiction
  · rintro rfl
    exact ofUtf8?_toUtf8 text

end Text
end ObjectStatus
