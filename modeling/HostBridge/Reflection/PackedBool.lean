import HostBridge.Reflection.Property

/-!
# Packed booleans

A packed boolean is the bits of a mask inside its container. On a willow host the mask covers a
little-endian 32-bit word at the property's offset, on an oak host one byte further on, and there
the bits that a true value sets have a mask of their own. Writing leaves all other bits alone.
-/

namespace HostBridge.PackedBool

/-- The number of a mask's lowest bit; the width if there is none. -/
def lowestBit (mask width : Nat) : Nat :=
  ((List.range width).find? mask.testBit).getD width

namespace Willow

variable (memory : Memory) (property container : Address)

def mask : UInt32 :=
  memory.read (Entity.boolProperty.address .willow .fieldMask property)

def wordAddress : Address :=
  container + UInt64.ofInt (Property.offset .willow memory property).toInt

def get : Bool :=
  (memory.read (wordAddress memory property container) : UInt32) &&& mask memory property != 0

def set (value : Bool) : Memory :=
  let address := wordAddress memory property container
  let word : UInt32 := memory.read address
  let mask := mask memory property
  memory.write address (if value then word ||| mask else word &&& ~~~mask)

end Willow

namespace Oak

variable (memory : Memory) (property container : Address)

/-- The byte of the container, counted from the property's offset, that holds the flag. -/
def byteOffset : UInt8 :=
  memory.read (Entity.boolProperty.address .oak .byteOffset property)

/-- The bits that a true value sets. -/
def byteMask : UInt8 :=
  memory.read (Entity.boolProperty.address .oak .byteMask property)

/-- The bits that make the flag. -/
def mask : UInt8 :=
  memory.read (Entity.boolProperty.address .oak .fieldMask property)

def byteAddress : Address :=
  container + UInt64.ofInt (Property.offset .oak memory property).toInt
    + (byteOffset memory property).toUInt64

def get : Bool :=
  memory.byte (byteAddress memory property container) &&& mask memory property != 0

def set (value : Bool) : Memory :=
  let address := byteAddress memory property container
  let byte := memory.byte address
  let bits := if value then byteMask memory property else 0
  memory.write address (byte &&& ~~~mask memory property ||| bits)

/-- Describes a flag that is one bit of a byte; the bit number counts modulo eight. -/
def describe (byteOffset bit : UInt8) : Memory :=
  let mask : UInt8 := 1 <<< (bit &&& 7)
  let put (label : Label) (value : UInt8) (memory : Memory) : Memory :=
    memory.write (Entity.boolProperty.address .oak label property) value
  memory |> put .fieldSize 1 |> put .byteOffset byteOffset |> put .byteMask mask
    |> put .fieldMask mask

end Oak

variable (flavour : Flavour) (memory : Memory) (property container : Address)

def get : Bool :=
  match flavour with
  | .willow => Willow.get memory property container
  | .oak => Oak.get memory property container

def set (value : Bool) : Memory :=
  match flavour with
  | .willow => Willow.set memory property container value
  | .oak => Oak.set memory property container value

/-- The number of the lowest bit of the mask; 8 or 32 for an empty one. -/
def bitIndex : Nat :=
  match flavour with
  | .willow => lowestBit (Willow.mask memory property).toNat 32
  | .oak => lowestBit (Oak.mask memory property).toNat 8

end HostBridge.PackedBool
