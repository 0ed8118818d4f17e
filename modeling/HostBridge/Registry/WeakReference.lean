import HostBridge.Memory.Stored

namespace HostBridge

structure WeakReference where
  index : Int32
  serial : Int32
  deriving DecidableEq, Repr

namespace WeakReference

def null : WeakReference := ⟨-1, 0⟩

instance : Inhabited WeakReference := ⟨null⟩

/-- Whether the reference can never resolve, whatever the registry holds. -/
def isNull (weak : WeakReference) : Bool :=
  weak.serial == 0 || weak.index < 0

def parts (weak : WeakReference) : Int32 × Int32 := (weak.index, weak.serial)

def ofParts (parts : Int32 × Int32) : WeakReference := ⟨parts.1, parts.2⟩

instance : Stored WeakReference := .via parts ofParts

instance : Stored.Exact WeakReference :=
  Stored.exact_via (show ∀ weak, ofParts (parts weak) = weak from fun _ => rfl) fun _ => rfl

end WeakReference

end HostBridge
