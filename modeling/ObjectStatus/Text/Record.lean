/-!
# Records in debug texts

A record is shown as its name and its fields in braces, either on one line or with one field to an
indented line.
-/

namespace ObjectStatus
namespace Text

/-- A named record whose fields are already text. -/
structure Record where
  name : String
  fields : List (String × String)

namespace Record

/-- A field as its name, a colon and its text. -/
def fieldText (field : String × String) : String :=
  field.1 ++ ": " ++ field.2

/-- The record on one line. -/
def oneLine (record : Record) : String :=
  record.name ++ " \x7b " ++ ", ".intercalate (record.fields.map fieldText) ++ " \x7d"

/-- The record with each field on a line of its own, indented by four blanks and closed by a
comma. -/
def indented (record : Record) : String :=
  record.name ++ " \x7b\n" ++
    String.join (record.fields.map fun field => "    " ++ fieldText field ++ ",\n") ++ "\x7d"

/-- A truth value in a record. -/
def ofBool (value : Bool) : String :=
  if value then "true" else "false"

end Record
end Text
end ObjectStatus
