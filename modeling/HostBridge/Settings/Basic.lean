import HostBridge.Log.Level

namespace HostBridge

inductive LogFormat where
  | compact
  | json
  deriving DecidableEq, Repr

namespace LogFormat

def all : List LogFormat := [.compact, .json]

def name : LogFormat → String
  | .compact => "compact"
  | .json => "json"

def ofName? (text : String) : Option LogFormat :=
  all.find? fun format => format.name == text

end LogFormat

structure Settings where
  /-- A relative path starts from the base directory. -/
  logFile : String := "unrealsdk.log"
  logLevel : String := "info"
  /-- The least severe level that the host's console shows, by name or number. -/
  consoleLogLevel : String := "warn"
  logFormat : LogFormat := .compact
  deriving DecidableEq, Repr

namespace Settings

instance : Inhabited Settings := ⟨{}⟩

/-- The console's threshold; a text that names no level counts as `warn`. -/
def consoleLevel (settings : Settings) : Level :=
  (Level.parse? settings.consoleLogLevel).getD .warn

end Settings

end HostBridge
