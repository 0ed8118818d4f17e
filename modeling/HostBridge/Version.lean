import HostBridge.Flavour

namespace HostBridge

structure Version where
  major : UInt32
  minor : UInt32
  patch : UInt32
  deriving DecidableEq, Repr

namespace Version

def current : Version := ⟨0, 1, 0⟩

/-- Sixteen bits of major, eight of minor and eight of patch, from the top. -/
def packed (version : Version) : UInt32 :=
  version.major <<< 16 ||| version.minor <<< 8 ||| version.patch

def text (version : Version) : String :=
  toString version.major ++ "." ++ toString version.minor ++ "." ++ toString version.patch

def banner : String :=
  "unrealsdk v" ++ current.text ++ " (" ++ Flavour.active.name ++ ")"

end Version

end HostBridge
