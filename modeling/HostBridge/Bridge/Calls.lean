import HostBridge.Bridge.Basic
import HostBridge.Registry.Weak

namespace HostBridge.Bridge

variable {σ : Type}

def call (request : HostCall) (bridge : Bridge σ) : Except Error request.Answer × Bridge σ :=
  match bridge.gate.hook with
  | some hook =>
    let (answer, bridge) := bridge.ask hook request
    (.ok answer, bridge)
  | none => (.error .notInitialized, bridge)

def registry (bridge : Bridge σ) : Except Error Registry :=
  bridge.gate.bound.map (·.registry)

def offsets (bridge : Bridge σ) : Except Error OffsetTable :=
  bridge.gate.bound.map (·.offsets)

def referenceAssigned (weak : WeakReference) : Event where
  level := .trace
  message := "assigned weak object pointer"
  fields := [("index", .number weak.index.toInt), ("serial", .number weak.serial.toInt)]

/-- A reference into a registry. One to an object is traced after its slot got a serial. -/
def reference (registry : Registry) (object? : Option Address) (bridge : Bridge σ) :
    Except Error WeakReference × Bridge σ :=
  match registry.reference bridge.memory object? with
  | .error error => (.error error, bridge)
  | .ok (weak, memory) =>
    let bridge := { bridge with memory := memory }
    (.ok weak, if object?.isSome then bridge.raise (referenceAssigned weak) else bridge)

def keepBlock (block : Address) (bridge : Bridge σ) : Bridge σ :=
  if block = 0 then bridge else { bridge with blocks := bridge.blocks.insert block }

def dropBlock (block : Address) (bridge : Bridge σ) : Bridge σ :=
  { bridge with blocks := bridge.blocks.erase block }

/-- A block from the host's allocator; null if it has none. -/
def allocate (length : Nat) (bridge : Bridge σ) : Except Error Address × Bridge σ :=
  match bridge.call (.allocate length) with
  | (.ok block, bridge) => (.ok block, bridge.keepBlock block)
  | failed => failed

/-- A block in place of another one, which is no longer kept, whatever the host answers. -/
def reallocate (block : Address) (length : Nat) (bridge : Bridge σ) :
    Except Error Address × Bridge σ :=
  match bridge.call (.reallocate block length) with
  | (.ok fresh, bridge) => (.ok fresh, (bridge.dropBlock block).keepBlock fresh)
  | failed => failed

def release (block : Address) (bridge : Bridge σ) : Except Error Unit × Bridge σ :=
  match bridge.call (.release block) with
  | (.ok (), bridge) => (.ok (), bridge.dropBlock block)
  | failed => failed

def keptBlocks (bridge : Bridge σ) : Nat :=
  bridge.blocks.length

/-- A new object; without a name the host picks one. -/
def construct (hostClass outer : Address) (name : Option HostName) (flags : UInt64)
    (template : Address) (bridge : Bridge σ) : Except Error Address × Bridge σ :=
  bridge.call (.construct hostClass outer (name.getD HostName.none) flags template)

def asObject (outcome : Except Error Address × Bridge σ) :
    Except Error (Option Address) × Bridge σ :=
  (outcome.1.map Registry.nonNull?, outcome.2)

def find? (hostClass : Address) (name : List Utf16.Unit) (bridge : Bridge σ) :
    Except Error (Option Address) × Bridge σ :=
  asObject (bridge.call (.find hostClass name))

def loadPackage? (name : List Utf16.Unit) (flags : UInt32) (bridge : Bridge σ) :
    Except Error (Option Address) × Bridge σ :=
  asObject (bridge.call (.loadPackage name flags))

def internName (text : List Utf16.Unit) (number : Int32) (bridge : Bridge σ) :
    Except Error HostName × Bridge σ :=
  bridge.call (.internName text number)

def nameEntry (name : HostName) (bridge : Bridge σ) : Except Error NameEntry × Bridge σ :=
  bridge.call (.nameEntry name)

def stepFrame (frame object parameter : Address) (bridge : Bridge σ) :
    Except Error Unit × Bridge σ :=
  bridge.call (.stepFrame frame object parameter)

def dispatch (object function parameters : Address) (bridge : Bridge σ) :
    Except Error Unit × Bridge σ :=
  bridge.call (.dispatch object function parameters)

def assignText (target : Address) (text : List Utf16.Unit) (bridge : Bridge σ) :
    Except Error Unit × Bridge σ :=
  bridge.call (.assignText target text)

def assignSoft (pointer object : Address) (bridge : Bridge σ) : Except Error Unit × Bridge σ :=
  bridge.call (.assignSoft pointer object)

def assignLazy (pointer object : Address) (bridge : Bridge σ) : Except Error Unit × Bridge σ :=
  bridge.call (.assignLazy pointer object)

end HostBridge.Bridge
