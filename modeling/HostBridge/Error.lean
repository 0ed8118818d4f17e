import HostBridge.Flavour

namespace HostBridge

inductive Error where
  /-- The hook was written against another layout family than this build. -/
  | layoutMismatch (hook build : Flavour)
  /-- The call-site redirection backend, or the installation of the hook, failed. -/
  | substrate (reason : String)
  /-- A configuration file is no document, or a setting in it has the wrong shape. -/
  | config (path reason : String)
  /-- An index is past the live end. -/
  | outOfRange (index size : Nat)
  /-- The host allocator answered null. -/
  | allocationFailed (size : Nat)
  /-- A host routine was asked for before a hook was bound. -/
  | notInitialized
  /-- The flavour has no equivalent of the operation. -/
  | unsupported (operation : String) (flavour : Flavour)
  /-- A file is there and cannot be read. -/
  | io (reason : String)
  deriving DecidableEq, Repr

namespace Error

def kindName : Error → String
  | .layoutMismatch .. => "LayoutMismatch"
  | .substrate _ => "Substrate"
  | .config .. => "Config"
  | .outOfRange .. => "OutOfRange"
  | .allocationFailed _ => "AllocationFailed"
  | .notInitialized => "NotInitialized"
  | .unsupported .. => "Unsupported"
  | .io _ => "Io"

def message : Error → String
  | .layoutMismatch hook build =>
    "hook targets the " ++ hook.name ++ " flavour but this build mirrors " ++ build.name
      ++ " layouts"
  | .substrate reason => "hook initialization failed: " ++ reason
  | .config path reason => "failed to parse config " ++ path ++ ": " ++ reason
  | .outOfRange index size =>
    "index " ++ toString index ++ " out of range for registry of size " ++ toString size
  | .allocationFailed size => "host allocator failed to provide " ++ toString size ++ " bytes"
  | .notInitialized => "unrealsdk has not been initialized"
  | .unsupported operation flavour =>
    operation ++ " is not supported on the " ++ flavour.name ++ " flavour"
  | .io reason => "I/O error: " ++ reason

def isFatal : Error → Bool
  | .layoutMismatch .. | .substrate _ | .config .. => true
  | _ => false

end Error

end HostBridge
