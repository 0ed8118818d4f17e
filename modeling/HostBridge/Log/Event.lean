import HostBridge.Log.Level
import HostBridge.Text.Escaped
import HostBridge.Text.Utf16

namespace HostBridge

inductive FieldValue where
  /-- Text that is shown as it is. -/
  | plain (text : String)
  /-- Text that is shown in quotes, with escapes. -/
  | quoted (text : String)
  | number (number : Int)
  | flag (truth : Bool)
  deriving DecidableEq, Repr

def FieldValue.text : FieldValue → String
  | .plain text => text
  | .quoted text => Escaped.quoted text
  | .number value => toString value
  | .flag truth => if truth then "true" else "false"

structure Event where
  level : Level
  message : String
  fields : List (String × FieldValue) := []
  deriving DecidableEq, Repr

namespace Event

def fieldText (field : String × FieldValue) : String :=
  " " ++ field.1 ++ "=" ++ field.2.text

/-- The level in brackets, the message, every field by its name, and the end of the line. -/
def line (event : Event) : String :=
  "[" ++ event.level.name ++ "] " ++ event.message
    ++ String.join (event.fields.map fieldText) ++ "\n"

end Event

end HostBridge
