import HostBridge.Memory.Stored
import HostBridge.Text.Utf16

namespace HostBridge

structure HostName where
  index : Int32
  number : Int32
  deriving DecidableEq, Repr

namespace HostName

def none : HostName := ⟨0, 0⟩

instance : Inhabited HostName := ⟨none⟩

def isNone (name : HostName) : Bool :=
  name.index == 0 && name.number == 0

def parts (name : HostName) : Int32 × Int32 := (name.index, name.number)

def ofParts (pair : Int32 × Int32) : HostName := ⟨pair.1, pair.2⟩

instance : Stored HostName := .via parts ofParts

instance : Stored.Exact HostName :=
  Stored.exact_via (show ∀ name, ofParts (parts name) = name from fun _ => rfl) fun _ => rfl

end HostName

inductive NameEntry where
  | narrow (bytes : List UInt8)
  | wide (units : List Utf16.Unit)
  deriving DecidableEq, Repr

namespace NameEntry

def isWide : NameEntry → Bool
  | .narrow _ => false
  | .wide _ => true

def length : NameEntry → Nat
  | .narrow bytes => bytes.length
  | .wide units => units.length

def isEmpty (entry : NameEntry) : Bool :=
  entry.length == 0

/-- The code units; a narrow one is a byte widened with zeros. -/
def units : NameEntry → List Utf16.Unit
  | .narrow bytes => bytes.map UInt8.toUInt16
  | .wide units => units

def storage : NameEntry → List UInt8
  | .narrow bytes => bytes
  | .wide units => units.flatMap Stored.encode

/-- Latin-1 bytes are the first 256 code points. -/
def text : NameEntry → String
  | .narrow bytes => String.ofList (bytes.map fun byte => Char.ofNat byte.toNat)
  | .wide units => Utf16.decode units

end NameEntry

end HostBridge
