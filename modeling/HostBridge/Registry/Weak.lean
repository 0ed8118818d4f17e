import HostBridge.Registry.Basic
import HostBridge.Registry.WeakReference

/-!
# Weak references into the registry

A weak reference resolves while its slot carries the serial number that the reference carries. A
slot gets its serial the first time that a reference to it is taken, by bumping the registry's
master counter. Only oak registries have serial numbers.
-/

namespace HostBridge.Registry

def noWeakReferences (registry : Registry) : Error :=
  .unsupported "weak object pointers" registry.flavour

/-- The object behind a reference, if it is still in its slot. A reference past the live end
resolves to nothing, for it may outlive its target. -/
def resolve (registry : Registry) (memory : Memory) (weak : WeakReference) :
    Except Error (Option Address) :=
  match registry.flavour with
  | .willow => .error registry.noWeakReferences
  | .oak =>
    let index := weak.index.toInt.toNat
    if weak.isNull || registry.size memory ≤ index
        || serialAt memory registry.header index != weak.serial then
      .ok none
    else
      .ok (nonNull? (registry.slot memory index))

/-- The serial of an oak slot and the memory after assigning it a fresh one if it had none. A fresh
serial is installed unless the slot got one in the meantime. -/
def allocateSerial (registry : Registry) (memory : Memory) (index : Nat) :
    Except Error (Int32 × Memory) :=
  let item := itemAddress memory registry.header index
  if item = 0 then
    .error (.outOfRange index (registry.size memory))
  else
    let place := memberAddress .registryItem .serialNumber item
    let existing : Int32 := memory.read place
    if existing != 0 then
      .ok (existing, memory)
    else
      let fresh := masterSerial memory registry.header + 1
      let memory :=
        memory.write (memberAddress .registry .masterSerialNumber registry.header) fresh
      let current : Int32 := memory.read place
      if current == 0 then .ok (fresh, memory.write place fresh) else .ok (current, memory)

/-- A reference to an object, or to nothing, with the memory after its slot got a serial. -/
def reference (registry : Registry) (memory : Memory) (object? : Option Address) :
    Except Error (WeakReference × Memory) :=
  match registry.flavour, object? with
  | .willow, _ => .error registry.noWeakReferences
  | .oak, none => .ok (WeakReference.null, memory)
  | .oak, some object =>
    let index : Int32 := memory.read (Entity.object.address .oak .internalIndex object)
    let size := registry.size memory
    if index < 0 then
      .error (.outOfRange (UInt64.size - 1) size)
    else
      let slot := index.toInt.toNat
      if size ≤ slot then
        .error (.outOfRange slot size)
      else
        (registry.allocateSerial memory slot).map fun (serial, memory) =>
          (⟨index, serial⟩, memory)

end HostBridge.Registry
