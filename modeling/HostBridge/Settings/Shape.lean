import HostBridge.Document.Value
import HostBridge.Settings.Basic
import HostBridge.Text.Escaped

/-!
# Settings in documents

The settings stand in a table of a document, or in an array that gives them in a fixed order. Keys
that name no setting are ignored, and a setting that is not given keeps its default. A fault is the
first value, in the order in which settings are read, that has the wrong shape.
-/

namespace HostBridge

inductive ShapeFault where
  | notText (found : Value)
  | notSettings (found : Value)
  | tooManyElements (count : Nat)
  | unknownFormat (name : String)
  | formatNotNamed
  | formatMissing
  | formatAmbiguous
  | formatTableFilled
  | formatArrayFilled
  | formatNotTable (found : Value)

namespace Value

def kindName : Value → String
  | .string _ => "string"
  | .integer _ => "integer"
  | .float _ => "float"
  | .boolean _ => "boolean"
  | .datetime _ => "datetime"
  | .array _ => "array"
  | .table _ => "table"

/-- The kind of a value with the value itself, if it is no array or table. -/
def description : Value → String
  | .string text => "string " ++ Escaped.quoted text
  | .integer number => "integer `" ++ toString number.toInt ++ "`"
  | .float number => "floating point `" ++ number.text ++ "`"
  | .boolean truth => "boolean `" ++ toString truth ++ "`"
  | .datetime moment => "string " ++ Escaped.quoted moment.text
  | .array _ => "sequence"
  | .table _ => "map"

end Value

namespace ShapeFault

def message : ShapeFault → String
  | .notText found => "invalid type: " ++ found.description ++ ", expected a string"
  | .notSettings found => "invalid type: " ++ found.description ++ ", expected struct SdkConfig"
  | .tooManyElements count =>
    "invalid length " ++ toString count ++ ", expected fewer elements in array"
  | .unknownFormat name => "unknown variant `" ++ name ++ "`, expected `compact` or `json`"
  | .formatNotNamed => "invalid type: unit variant, expected string only"
  | .formatMissing => "wanted exactly 1 element, found 0 elements"
  | .formatAmbiguous => "wanted exactly 1 element, more than 1 element"
  | .formatTableFilled => "expected empty table"
  | .formatArrayFilled => "expected empty array"
  | .formatNotTable found => "expected table, found " ++ found.kindName

end ShapeFault

namespace Settings

/-- A text setting; a datetime counts as its text. -/
def readText : Value → Except ShapeFault String
  | .string text => .ok text
  | .datetime moment => .ok moment.text
  | found => .error (.notText found)

def formatNamed (name : String) : Except ShapeFault LogFormat :=
  match LogFormat.ofName? name with
  | some format => .ok format
  | none => .error (.unknownFormat name)

/-- A format is given by its name, or as the only key of a table, with nothing in it. -/
def readFormat : Value → Except ShapeFault LogFormat
  | .string name => formatNamed name
  | .table [] => .error .formatMissing
  | .table [(name, content)] => do
    let format ← formatNamed name
    match content with
    | .table [] | .array [] => .ok format
    | .table _ => .error .formatTableFilled
    | .array _ => .error .formatArrayFilled
    | found => .error (.formatNotTable found)
  | .table _ => .error .formatAmbiguous
  | _ => .error .formatNotNamed

def readOr {α : Type} (read : Value → Except ShapeFault α) (absent : α) :
    Option Value → Except ShapeFault α
  | some value => read value
  | none => .ok absent

/-- The settings of a table, read in the order of their keys. -/
def ofTable (table : Table) : Except ShapeFault Settings := do
  let defaults : Settings := {}
  let consoleLogLevel ←
    readOr readText defaults.consoleLogLevel (Table.find? table "console_log_level")
  let logFile ← readOr readText defaults.logFile (Table.find? table "log_file")
  let logFormat ← readOr readFormat defaults.logFormat (Table.find? table "log_format")
  let logLevel ← readOr readText defaults.logLevel (Table.find? table "log_level")
  return ⟨logFile, logLevel, consoleLogLevel, logFormat⟩

/-- The settings of an array, which gives log file, log level, console level and format. -/
def ofElements (elements : List Value) : Except ShapeFault Settings := do
  let defaults : Settings := {}
  let logFile ← readOr readText defaults.logFile elements[0]?
  let logLevel ← readOr readText defaults.logLevel elements[1]?
  let consoleLogLevel ← readOr readText defaults.consoleLogLevel elements[2]?
  let logFormat ← readOr readFormat defaults.logFormat elements[3]?
  if 4 < elements.length then .error (.tooManyElements elements.length)
  else .ok ⟨logFile, logLevel, consoleLogLevel, logFormat⟩

def ofValue : Value → Except ShapeFault Settings
  | .table entries => ofTable entries
  | .array elements => ofElements elements
  | found => .error (.notSettings found)

def documentKey : String := "unrealsdk"

def ofDocument (document : Table) : Except ShapeFault Settings :=
  readOr ofValue {} (Table.find? document documentKey)

end Settings

end HostBridge
