import HostBridge.Error
import HostBridge.Layout.Access

/-!
# Properties

A property describes a static array of elements inside a container: element `index` lies at
`container + index * elementSize + offset`, over the integers and then modulo `2 ^ 64`. Reading and
writing an element outside the static dimension is an `outOfRange` error.
-/

namespace HostBridge.Property

variable (flavour : Flavour) (memory : Memory) (property : Address)

def arrayDim : Int32 :=
  memory.read (Entity.property.address flavour .arrayDim property)

def elementSize : Int32 :=
  memory.read (Entity.property.address flavour .elementSize property)

def offset : Int32 :=
  memory.read (Entity.property.address flavour .offsetInternal property)

def linkNext : Address :=
  memory.read (Entity.property.address flavour .propertyLinkNext property)

/-- The number of elements; a negative dimension reads as none. -/
def dimension : Nat :=
  (arrayDim flavour memory property).toInt.toNat

/-- An integer that a signed 64-bit word can hold. -/
def signed64? (value : Int) : Option Int :=
  if Int64.minValue.toInt ≤ value ∧ value ≤ Int64.maxValue.toInt then some value else none

/-- The offset of an element from the container, unless a signed 64-bit word overflows on the
way. -/
def elementOffset? (index : Nat) (size offset : Int) : Option Int := do
  let relative ← signed64? ((UInt64.ofNat index).toInt64.toInt * size)
  signed64? (relative + offset)

def valueAddress (container : Address) (index : Nat) : Except Error Address :=
  let dimension := dimension flavour memory property
  let outside := Error.outOfRange index dimension
  if dimension ≤ index then
    .error outside
  else
    match elementOffset? index (elementSize flavour memory property).toInt
        (offset flavour memory property).toInt with
    | some distance => .ok (container + UInt64.ofInt distance)
    | none => .error outside

def readValue {α : Type} [Stored α] (container : Address) (index : Nat) : Except Error α :=
  (valueAddress flavour memory property container index).map memory.read

def writeValue {α : Type} [Stored α] (container : Address) (index : Nat) (value : α) :
    Except Error Memory :=
  (valueAddress flavour memory property container index).map (memory.write · value)

end HostBridge.Property
