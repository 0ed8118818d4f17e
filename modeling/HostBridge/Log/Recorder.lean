import HostBridge.Log.Console

namespace HostBridge

structure Recorder where
  isReady : Bool
  lines : List (List Utf16.Unit)
  deriving DecidableEq, Repr

namespace Recorder

def fresh : Recorder := ⟨false, []⟩

def sink (echoes : List Event) : Sink Recorder where
  isReady recorder := recorder.isReady
  receive text recorder := { recorder with lines := recorder.lines ++ [text] }
  echoes _ := echoes

end Recorder

end HostBridge
