import HostBridge.Reflection.Property

namespace HostBridge.Struct

variable (flavour : Flavour) (memory : Memory)

def super (struct : Address) : Address :=
  memory.read (Entity.struct.address flavour .superField struct)

def propertyLink (struct : Address) : Address :=
  memory.read (Entity.struct.address flavour .propertyLink struct)

/-- The first `bound` properties of the chain that starts at an address. -/
def linksFrom (first : Address) : Nat → List Address
  | 0 => []
  | bound + 1 =>
    if first = 0 then []
    else first :: linksFrom (Property.linkNext flavour memory first) bound

def properties (struct : Address) (bound : Nat) : List Address :=
  linksFrom flavour memory (propertyLink flavour memory struct) bound

/-- Whether `other` is met on the way up from `struct`, when at most `bound` links decide it. -/
def inheritsWithin (struct other : Address) : Nat → Option Bool
  | 0 => none
  | bound + 1 =>
    if struct = 0 then some false
    else if struct = other then some true
    else inheritsWithin (super flavour memory struct) other bound

/-- Whether `other` is the struct or one of its ancestors. There are no more than `2 ^ 64`
addresses, so `none` means that the walk up never ends. -/
def inherits? (struct other : Address) : Option Bool :=
  inheritsWithin flavour memory struct other (UInt64.size + 1)

end HostBridge.Struct
