import HostBridge.Memory.Stored
import HostBridge.Text.Hex
import HostBridge.Text.Utf16

namespace HostBridge

structure HostArray where
  data : Address
  count : Int32
  max : Int32
  deriving DecidableEq, Repr

namespace HostArray

def empty : HostArray := ⟨0, 0, 0⟩

def parts (array : HostArray) : Address × Int32 × Int32 := (array.data, array.count, array.max)

def ofParts (parts : Address × Int32 × Int32) : HostArray := ⟨parts.1, parts.2.1, parts.2.2⟩

instance : Stored HostArray := .via parts ofParts

instance : Stored.Exact HostArray :=
  Stored.exact_via (show ∀ array, ofParts (parts array) = array from fun _ => rfl) fun _ => rfl

def length (array : HostArray) : Nat :=
  array.count.toInt.toNat

def isEmpty (array : HostArray) : Bool :=
  array.length == 0

def address (array : HostArray) (width index : Nat) : Address :=
  array.data + UInt64.ofNat (index * width)

def address? (array : HostArray) (width index : Nat) : Option Address :=
  if array.data = 0 ∨ array.length ≤ index then none else some (array.address width index)

def elements {α : Type} [Stored α] (array : HostArray) (memory : Memory) : List α :=
  if array.data = 0 then
    []
  else
    (List.range array.length).map fun i => memory.read (array.address (Stored.width α) i)

/-- Drops a NUL at the end, at most one. -/
def dropTerminator (units : List Utf16.Unit) : List Utf16.Unit :=
  if units.getLast? = some 0 then units.dropLast else units

def text (array : HostArray) (memory : Memory) : String :=
  Utf16.decode (dropTerminator (array.elements memory))

def debugText (array : HostArray) : String :=
  "TArray \x7b data: " ++ Hex.address array.data ++ ", count: " ++ toString array.count.toInt
    ++ ", max: " ++ toString array.max.toInt ++ " \x7d"

end HostArray

end HostBridge
