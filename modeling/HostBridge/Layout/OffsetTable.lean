import HostBridge.Layout.Descriptor

namespace HostBridge

/-- One group per entity; a group pairs the entity's own members with their offsets. -/
abbrev OffsetTable := List (Entity × List (Label × UInt16))

namespace OffsetTable

/-- The groups and the members that they list: those which both flavours have. -/
def groups : List (Entity × List Label) :=
  [(.object, [.objectFlags, .internalIndex, .hostClass, .name, .outer]),
    (.field, [.next]),
    (.property, [.arrayDim, .elementSize, .propertyFlags, .offsetInternal, .propertyLinkNext]),
    (.struct, [.superField, .children, .propertySize, .propertyLink, .scriptObjectReferences]),
    (.hostClass, [.classDefaultObject, .interfaces]),
    (.scriptStruct, [.structFlags]),
    (.function, [.functionFlags, .numParams, .paramsSize, .returnValueOffset, .func]),
    (.const, [.value]),
    (.enum, [.names]),
    (.arrayProperty, [.inner]),
    (.boolProperty, [.fieldMask]),
    (.byteProperty, [.enum]),
    (.classProperty, [.metaClass]),
    (.delegateProperty, [.signature]),
    (.enumProperty, [.underlyingProp, .enum]),
    (.interfaceProperty, [.interfaceClass]),
    (.multicastDelegateProperty, [.signature]),
    (.objectProperty, [.propertyClass]),
    (.softClassProperty, [.metaClass]),
    (.structProperty, [.struct]),
    (.byteAttributeProperty, [.modifierStackProperty, .otherAttributeProperty]),
    (.intAttributeProperty, [.modifierStackProperty, .otherAttributeProperty]),
    (.floatAttributeProperty, [.modifierStackProperty, .otherAttributeProperty])]

def groupName (entity : Entity) : String :=
  entity.typeName.toLower

def ofOffsets (offset : Entity → Label → Nat) : OffsetTable :=
  groups.map fun (entity, labels) =>
    (entity, labels.map fun label => (label, UInt16.ofNat (offset entity label)))

def ofFlavour (flavour : Flavour) : OffsetTable :=
  ofOffsets fun entity label => (entity.layout flavour).offset label

/-- The table before any flavour is known: zero everywhere. -/
def blank : OffsetTable :=
  ofOffsets fun _ _ => 0

def group? (table : OffsetTable) (name : String) : Option (List (Label × UInt16)) :=
  (table.find? fun entry => groupName entry.1 == name).map Prod.snd

def count : Nat :=
  (groups.flatMap Prod.snd).length

end OffsetTable

end HostBridge
