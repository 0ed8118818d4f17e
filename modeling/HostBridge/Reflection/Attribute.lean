import HostBridge.Memory.Scalar
import HostBridge.Reflection.Property

namespace HostBridge

inductive AttributeKind where
  | byte
  | int
  | float
  deriving DecidableEq, Repr

namespace AttributeKind

def ofName? : String → Option AttributeKind
  | "byte" => some .byte
  | "int" => some .int
  | "float" => some .float
  | _ => none

def entity : AttributeKind → Entity
  | .byte => .byteAttributeProperty
  | .int => .intAttributeProperty
  | .float => .floatAttributeProperty

def scalar : AttributeKind → Scalar
  | .byte => .u8
  | .int => .i32
  | .float => .f32

end AttributeKind

namespace Attribute

variable (flavour : Flavour) (kind : AttributeKind) (memory : Memory)
  (property container : Address)

/-- The attribute that stores the base value; null if the host linked none. -/
def baseAttribute : Address :=
  memory.read (kind.entity.address flavour .otherAttributeProperty property)

def value : Except Error kind.scalar.Carrier :=
  Property.readValue flavour memory property container 0

def setValue (value : kind.scalar.Carrier) : Except Error Memory :=
  Property.writeValue flavour memory property container 0 value

def baseValue? : Except Error (Option kind.scalar.Carrier) :=
  let base := baseAttribute flavour kind memory property
  if base = 0 then .ok none else (Property.readValue flavour memory base container 0).map some

/-- Sets the base value; without one, answers `false` and leaves the memory alone. -/
def setBaseValue (value : kind.scalar.Carrier) : Except Error (Bool × Memory) :=
  let base := baseAttribute flavour kind memory property
  if base = 0 then
    .ok (false, memory)
  else
    (Property.writeValue flavour memory base container 0 value).map (true, ·)

end Attribute

end HostBridge
