import HostBridge.Layout.Descriptor

namespace HostBridge.Entity

@[inline]
def address (entity : Entity) (flavour : Flavour) (label : Label) (start : Address) : Address :=
  start + UInt64.ofNat ((entity.layout flavour).offset label)

def get? (entity : Entity) (flavour : Flavour) (label : Label) (memory : Memory)
    (start : Address) : Option Datum :=
  (entity.layout flavour).get? label memory start

/-- Members that describe a packed flag together and are not set one by one. -/
def isReadOnly : Label → Bool
  | .fieldSize | .byteOffset | .byteMask => true
  | _ => false

/-- The memory after setting a member, if it can be set and holds the datum. -/
def set? (entity : Entity) (flavour : Flavour) (label : Label) (datum : Datum) (memory : Memory)
    (start : Address) : Option Memory :=
  if isReadOnly label then none else (entity.layout flavour).set? label datum memory start

def upcasts (entity : Entity) : List Entity :=
  (if entity == .object then [] else [.object])
    ++ (if entity.isA .property || entity.isA .struct || entity == .enum then [.field] else [])
    ++ (if entity == .hostClass || entity == .function then [.struct] else [])
    ++ (if entity == .boolProperty then [.property] else [])

def ofUpcastName? : String → Option Entity
  | "as_object" => some .object
  | "as_field" => some .field
  | "as_struct" => some .struct
  | "as_property" => some .property
  | _ => none

def upcast? (entity base : Entity) (start : Address) : Option Address :=
  if entity.upcasts.contains base then some start else none

end HostBridge.Entity
