import HostBridge.Bridge.HostText
import HostBridge.Version

namespace HostBridge

/-- Text that is handed over as a pointer and a number of code units. -/
structure WideText where
  units : Option (List Utf16.Unit)
  size : Nat
  deriving DecidableEq, Repr

namespace WideText

/-- The text; nothing stands behind a null pointer. -/
def text (wide : WideText) : List Utf16.Unit :=
  (wide.units.getD []).take wide.size

/-- Text that is handed over as a pointer alone ends before its first zero. -/
def terminated (units : Option (List Utf16.Unit)) : List Utf16.Unit :=
  (units.getD []).takeWhile (· != 0)

end WideText

namespace Exports

variable {σ : Type}

def callFailed (function : String) (error : Error) : Event where
  level := .error
  message := "unrealsdk call failed"
  fields := [("function", .plain function), ("error", .plain error.message)]

/-- Logs an error under the name of the call and answers the fallback for it. -/
def report {α : Type} (function : String) (fallback : α) :
    Except Error α × Bridge σ → α × Bridge σ
  | (.ok answer, bridge) => (answer, bridge)
  | (.error error, bridge) => (fallback, bridge.raise (callFailed function error))

def addressOf (object? : Option Address) : Address :=
  object?.getD 0

def mapAnswer {α β : Type} (change : α → β) (outcome : α × Bridge σ) : β × Bridge σ :=
  (change outcome.1, outcome.2)

def version : UInt32 := Version.current.packed

def isInitialized (bridge : Bridge σ) : Bool := bridge.isInitialized

def isConsoleReady (bridge : Bridge σ) : Bool := bridge.isConsoleReady

def registry (bridge : Bridge σ) : Address × Bridge σ :=
  report "gobjects" 0 (bridge.registry.map (·.header), bridge)

def registrySize (bridge : Bridge σ) : Nat × Bridge σ :=
  report "gobjects_size" 0 (bridge.registry.map (·.size bridge.memory), bridge)

def objectAt (index : Nat) (bridge : Bridge σ) : Address × Bridge σ :=
  mapAnswer addressOf
    (report "gobjects_obj_at" none
      (bridge.registry.bind fun registry => registry.at? bridge.memory index, bridge))

def resolve (weak? : Option WeakReference) (bridge : Bridge σ) : Address × Bridge σ :=
  match weak? with
  | none => (0, bridge)
  | some weak =>
    mapAnswer addressOf
      (report "gobjects_get_weak_object" none
        (bridge.registry.bind fun registry => registry.resolve bridge.memory weak, bridge))

def reference (object : Address) (bridge : Bridge σ) : Except Error WeakReference × Bridge σ :=
  match bridge.registry with
  | .ok registry => bridge.reference registry (Registry.nonNull? object)
  | .error error => (.error error, bridge)

/-- Sets a reference, unless its pointer is null; answers whether it did, and the reference. -/
def setReference (weak? : Option WeakReference) (object : Address) (bridge : Bridge σ) :
    (Bool × Option WeakReference) × Bridge σ :=
  match weak? with
  | none => ((false, none), bridge)
  | some weak =>
    let (outcome, bridge) := reference object bridge
    report "gobjects_set_weak_object" (false, some weak)
      (outcome.map fun fresh => (true, some fresh), bridge)

def offsets (bridge : Bridge σ) : Option OffsetTable × Bridge σ :=
  report "get_offsets" none (bridge.offsets.map some, bridge)

/-- A block; every attempt is traced, before it is made. -/
def allocate (length : Nat) (bridge : Bridge σ) : Address × Bridge σ :=
  let traced : Event := ⟨.trace, "u_malloc", [("len", .number length)]⟩
  report "u_malloc" 0 ((bridge.raise traced).allocate length)

def reallocate (block : Address) (length : Nat) (bridge : Bridge σ) : Address × Bridge σ :=
  report "u_realloc" 0 (bridge.reallocate block length)

/-- Releases a block; null is no block. -/
def release (block : Address) (bridge : Bridge σ) : Bridge σ :=
  if block = 0 then bridge else (report "u_free" () (bridge.release block)).2

def construct (hostClass outer : Address) (name? : Option HostName) (flags : UInt64)
    (template : Address) (bridge : Bridge σ) : Address × Bridge σ :=
  report "construct_object" 0 (bridge.construct hostClass outer name? flags template)

def find (hostClass : Address) (name : WideText) (bridge : Bridge σ) : Address × Bridge σ :=
  mapAnswer addressOf (report "find_object" none (bridge.find? hostClass name.text))

def loadPackage (name : WideText) (flags : UInt32) (bridge : Bridge σ) : Address × Bridge σ :=
  mapAnswer addressOf (report "load_package" none (bridge.loadPackage? name.text flags))

def internName (name? : Option HostName) (value : Option (List Utf16.Unit)) (number : Int32)
    (bridge : Bridge σ) : Option HostName × Bridge σ :=
  match name? with
  | none => (none, bridge)
  | some name =>
    mapAnswer some (report "fname_init" name (bridge.internName (WideText.terminated value) number))

/-- The entry that is written out for a name; nothing is written or asked if one of the places to
write to is null. -/
def nameEntry (hasPlaces : Bool) (name : HostName) (bridge : Bridge σ) :
    Option NameEntry × Bridge σ :=
  if hasPlaces then
    mapAnswer some (report "fname_get_str" (.narrow []) (bridge.nameEntry name))
  else (none, bridge)

def stepFrame (frame object parameter : Address) (bridge : Bridge σ) : Bridge σ :=
  (report "fframe_step" () (bridge.stepFrame frame object parameter)).2

def dispatch (object function parameters : Address) (bridge : Bridge σ) : Bridge σ :=
  (report "process_event" () (bridge.dispatch object function parameters)).2

def print (text : WideText) (bridge : Bridge σ) : Bridge σ :=
  bridge.print text.text

/-- The block of a path name, and the length that is written out; nothing is written on failure. -/
def pathName (object : Address) (bridge : Bridge σ) : (Address × Option Nat) × Bridge σ :=
  let (outcome, bridge) := bridge.pathName object
  report "uobject_path_name" (0, none)
    (outcome.map fun text => (text.block, some text.length), bridge)

def assignText (target : Address) (text : WideText) (bridge : Bridge σ) : Bridge σ :=
  (report "ftext_as_culture_invariant" () (bridge.assignText target text.text)).2

def assignSoft (pointer object : Address) (bridge : Bridge σ) : Bridge σ :=
  (report "fsoftobjectptr_assign" () (bridge.assignSoft pointer object)).2

def assignLazy (pointer object : Address) (bridge : Bridge σ) : Bridge σ :=
  (report "flazyobjectptr_assign" () (bridge.assignLazy pointer object)).2

end Exports

end HostBridge
