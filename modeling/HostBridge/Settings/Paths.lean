import HostBridge.Path
import HostBridge.Settings.Basic

namespace HostBridge

namespace Settings

def baseFileName : String := "unrealsdk.toml"

def userFileName : String := "unrealsdk.user.toml"

def baseDirectory (home : Option String) (executableDirectory : String) : String :=
  home.getD executableDirectory

/-- The base file, unless another one is given for it, and the user's file. -/
def paths (baseFile : Option String) (directory : String) : String × String :=
  (baseFile.getD (Path.join directory baseFileName), Path.join directory userFileName)

def logPath (settings : Settings) (directory : String) : String :=
  Path.join directory settings.logFile

end Settings

end HostBridge
