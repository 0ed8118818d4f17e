import HostBridge.Layout.Access

namespace HostBridge

namespace Enumeration

variable (flavour : Flavour) (memory : Memory) (enumeration : Address)

def names : HostArray :=
  memory.read (Entity.enum.address flavour .names enumeration)

def entries : List (HostName × Int64) :=
  match flavour with
  | .oak =>
    ((names flavour memory enumeration).elements memory : List (HostName × UInt64)).map
      fun entry => (entry.1, entry.2.toInt64)
  | .willow =>
    ((names flavour memory enumeration).elements memory : List HostName).mapIdx
      fun position name => (name, Int64.ofNat position)

end Enumeration

structure OakInterface where
  interfaceClass : Address
  pointerOffset : Int32
  isScripted : Bool
  deriving DecidableEq, Repr

namespace OakInterface

/-- The class, the offset, the flag and three bytes of padding. -/
instance : Stored OakInterface where
  width := 16
  encode entry :=
    Stored.encode entry.interfaceClass ++ Stored.encode entry.pointerOffset
      ++ Stored.encode entry.isScripted ++ [0, 0, 0]
  decode bytes :=
    ⟨Stored.decode (bytes.take 8), Stored.decode ((bytes.drop 8).take 4),
      Stored.decode ((bytes.drop 12).take 1)⟩

end OakInterface

structure WillowInterface where
  interfaceClass : Address
  tableProperty : Address
  deriving DecidableEq, Repr

namespace WillowInterface

def parts (entry : WillowInterface) : Address × Address :=
  (entry.interfaceClass, entry.tableProperty)

def ofParts (parts : Address × Address) : WillowInterface := ⟨parts.1, parts.2⟩

instance : Stored WillowInterface := .via parts ofParts

end WillowInterface

def implementedInterface : Flavour → Record Unit
  | .oak => Record.empty.extend 8 [⟨none, .address⟩, ⟨none, .i32⟩, ⟨none, .truth⟩]
  | .willow => Record.empty.extend 4 [⟨none, .address⟩, ⟨none, .address⟩]

namespace HostClass

variable (flavour : Flavour) (memory : Memory) (hostClass : Address)

def interfaces : HostArray :=
  memory.read (Entity.hostClass.address flavour .interfaces hostClass)

def oakInterfaces : List OakInterface :=
  (interfaces .oak memory hostClass).elements memory

def willowInterfaces : List WillowInterface :=
  (interfaces .willow memory hostClass).elements memory

end HostClass

end HostBridge
