import HostBridge.Bridge.Calls
import HostBridge.Memory.Stored
import HostBridge.Text.Escaped

namespace HostBridge

structure HostText where
  block : Address
  /-- The number of code units, without the zero at the end. -/
  length : Nat
  deriving DecidableEq, Repr

namespace HostText

def byteLength (length : Nat) : Nat := 2 * (length + 1)

def isEmpty (text : HostText) : Bool :=
  text.length == 0

def unitsAt (memory : Memory) (start : Address) (count : Nat) : List Utf16.Unit :=
  (List.range count).map fun index => memory.read (start + UInt64.ofNat (2 * index))

def terminated (units : List Utf16.Unit) : List Utf16.Unit :=
  units.takeWhile (· != 0) ++ [0]

def units (text : HostText) (memory : Memory) : List Utf16.Unit :=
  unitsAt memory text.block text.length

def text (text : HostText) (memory : Memory) : String :=
  Utf16.decode (text.units memory)

def debugText (text : HostText) (memory : Memory) : String :=
  "HostWideString(" ++ Escaped.quoted (text.text memory) ++ ")"

end HostText

namespace Bridge

variable {σ : Type}

def writeText (block : Address) (units : List Utf16.Unit) (bridge : Bridge σ) : Bridge σ :=
  { bridge with memory := bridge.memory.store block ((units ++ [0]).flatMap Stored.encode) }

/-- The path name of an object, copied to a block of its own. -/
def pathName (object : Address) (bridge : Bridge σ) : Except Error HostText × Bridge σ :=
  match bridge.call (.pathName object) with
  | (.error error, bridge) => (.error error, bridge)
  | (.ok units, bridge) =>
    let length := HostText.byteLength (List.length units)
    match bridge.allocate length with
    | (.error error, bridge) => (.error error, bridge)
    | (.ok block, bridge) =>
      if block = 0 then (.error (.allocationFailed length), bridge)
      else (.ok ⟨block, List.length units⟩, bridge.writeText block units)

def leakingText (error : Error) : Event where
  level := .warn
  message := "leaking host string"
  fields := [("error", .plain error.message)]

def dropText (text : HostText) (bridge : Bridge σ) : Bridge σ :=
  match bridge.release text.block with
  | (.ok (), bridge) => bridge
  | (.error error, bridge) => bridge.raise (leakingText error)

/-- Gives up a text without releasing its block, which is from then on to be released by others. -/
def handOver (text : HostText) (bridge : Bridge σ) : Address × Bridge σ :=
  (text.block, bridge)

end Bridge

end HostBridge
