import HostBridge.Error
import HostBridge.Layout.Access
import HostBridge.Layout.Storage

/-!
# The object registry

A willow host keeps its objects in one array of addresses, an oak host in chunks of items that it
allocates on demand. `size`, `slot` and `at` read either form from memory, and nothing is
remembered between two reads: a registry is a view, and the host may change it at any time.
-/

namespace HostBridge

/-- A view of the registry at an address; the flavour tells its form. -/
structure Registry where
  flavour : Flavour
  header : Address
  deriving DecidableEq, Repr

namespace Registry

def chunkLength : Nat := 65536

@[inline]
def memberAddress (storage : Storage) (label : StorageLabel) (start : Address) : Address :=
  start + UInt64.ofNat (storage.layout.offset label)

section Oak

variable (memory : Memory) (header : Address)

/-- The address of an item, or null if its chunk is missing. -/
def itemAddress (index : Nat) : Address :=
  let chunks : Address := memory.read (memberAddress .registry .objects header)
  if chunks = 0 then
    0
  else
    let chunk : Address := memory.read (chunks + UInt64.ofNat (8 * (index / chunkLength)))
    if chunk = 0 then 0
    else chunk + UInt64.ofNat (Storage.registryItem.layout.size * (index % chunkLength))

/-- The serial number in an item; zero if the item is missing. -/
def serialAt (index : Nat) : Int32 :=
  let item := itemAddress memory header index
  if item = 0 then 0 else memory.read (memberAddress .registryItem .serialNumber item)

def masterSerial : Int32 :=
  memory.read (memberAddress .registry .masterSerialNumber header)

end Oak

def count (registry : Registry) (memory : Memory) : Int32 :=
  match registry.flavour with
  | .willow => memory.read (memberAddress .array .count registry.header)
  | .oak => memory.read (memberAddress .registry .numElements registry.header)

/-- The number of live slots; a negative count reads as none. -/
def size (registry : Registry) (memory : Memory) : Nat :=
  (registry.count memory).toInt.toNat

/-- The object in a slot, null if the slot is empty or its storage is missing. -/
def slot (registry : Registry) (memory : Memory) (index : Nat) : Address :=
  match registry.flavour with
  | .willow =>
    let data : Address := memory.read (memberAddress .array .data registry.header)
    if data = 0 then 0 else memory.read (data + UInt64.ofNat (8 * index))
  | .oak =>
    let item := itemAddress memory registry.header index
    if item = 0 then 0 else memory.read (memberAddress .registryItem .object item)

def nonNull? (address : Address) : Option Address :=
  if address = 0 then none else some address

def at? (registry : Registry) (memory : Memory) (index : Nat) : Except Error (Option Address) :=
  let size := registry.size memory
  if size ≤ index then .error (.outOfRange index size)
  else .ok (nonNull? (registry.slot memory index))

end Registry

end HostBridge
