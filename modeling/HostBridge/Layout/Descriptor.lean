import HostBridge.Flavour
import HostBridge.Layout.Record

/-!
# Descriptors of host entities

The host's reflection data is a hierarchy of entities with single inheritance. `Entity.lineage` is
the chain of bases, `Entity.members` are the members that an entity adds to its base in a flavour,
and `Entity.layout` places all of them. Since every base comes first, an entity's address is also
that of each of its bases.
-/

namespace HostBridge

inductive Label where
  | objectFlags | internalIndex | hostClass | name | outer
  | next
  | arrayDim | elementSize | propertyFlags | offsetInternal | propertyLinkNext
  | superField | children | propertySize | propertyLink | scriptObjectReferences
  | classDefaultObject | interfaces
  | structFlags
  | functionFlags | numParams | paramsSize | returnValueOffset | func
  | value
  | names
  | inner
  | fieldSize | byteOffset | byteMask | fieldMask
  | enum
  | metaClass
  | signature
  | underlyingProp
  | interfaceClass
  | propertyClass
  | struct
  | modifierStackProperty | otherAttributeProperty
  deriving DecidableEq, Repr

inductive Entity where
  | object | field | property | struct | hostClass | function | enum | boolProperty
  | scriptStruct | const
  | arrayProperty | byteProperty | delegateProperty | enumProperty | floatProperty
  | interfaceProperty | intProperty | multicastDelegateProperty | objectProperty
  | structProperty | classProperty | softClassProperty
  | byteAttributeProperty | intAttributeProperty | floatAttributeProperty
  deriving DecidableEq, Repr

namespace Label

def all : List Label :=
  [.objectFlags, .internalIndex, .hostClass, .name, .outer, .next, .arrayDim, .elementSize,
    .propertyFlags, .offsetInternal, .propertyLinkNext, .superField, .children, .propertySize,
    .propertyLink, .scriptObjectReferences, .classDefaultObject, .interfaces, .structFlags,
    .functionFlags, .numParams, .paramsSize, .returnValueOffset, .func, .value, .names, .inner,
    .fieldSize, .byteOffset, .byteMask, .fieldMask, .enum, .metaClass, .signature,
    .underlyingProp, .interfaceClass, .propertyClass, .struct, .modifierStackProperty,
    .otherAttributeProperty]

/-- The name under which the offset table lists the member. -/
def text : Label → String
  | .objectFlags => "object_flags"
  | .internalIndex => "internal_index"
  | .hostClass => "class"
  | .name => "name"
  | .outer => "outer"
  | .next => "next"
  | .arrayDim => "array_dim"
  | .elementSize => "element_size"
  | .propertyFlags => "property_flags"
  | .offsetInternal => "offset_internal"
  | .propertyLinkNext => "property_link_next"
  | .superField => "super_field"
  | .children => "children"
  | .propertySize => "property_size"
  | .propertyLink => "property_link"
  | .scriptObjectReferences => "script_object_references"
  | .classDefaultObject => "class_default_object"
  | .interfaces => "interfaces"
  | .structFlags => "struct_flags"
  | .functionFlags => "function_flags"
  | .numParams => "num_params"
  | .paramsSize => "params_size"
  | .returnValueOffset => "return_value_offset"
  | .func => "func"
  | .value => "value"
  | .names => "names"
  | .inner => "inner"
  | .fieldSize => "field_size"
  | .byteOffset => "byte_offset"
  | .byteMask => "byte_mask"
  | .fieldMask => "field_mask"
  | .enum => "enum_"
  | .metaClass => "meta_class"
  | .signature => "signature"
  | .underlyingProp => "underlying_prop"
  | .interfaceClass => "interface_class"
  | .propertyClass => "property_class"
  | .struct => "struct_"
  | .modifierStackProperty => "modifier_stack_property"
  | .otherAttributeProperty => "other_attribute_property"

def ofText? (text : String) : Option Label :=
  all.find? fun label => label.text == text

end Label

namespace Entity

def all : List Entity :=
  [.object, .field, .property, .struct, .hostClass, .function, .enum, .boolProperty, .scriptStruct,
    .const, .arrayProperty, .byteProperty, .delegateProperty, .enumProperty, .floatProperty,
    .interfaceProperty, .intProperty, .multicastDelegateProperty, .objectProperty,
    .structProperty, .classProperty, .softClassProperty, .byteAttributeProperty,
    .intAttributeProperty, .floatAttributeProperty]

theorem mem_all (entity : Entity) : entity ∈ all := by
  cases entity <;> decide

def typeName : Entity → String
  | .object => "UObject"
  | .field => "UField"
  | .property => "UProperty"
  | .struct => "UStruct"
  | .hostClass => "UClass"
  | .function => "UFunction"
  | .enum => "UEnum"
  | .boolProperty => "UBoolProperty"
  | .scriptStruct => "UScriptStruct"
  | .const => "UConst"
  | .arrayProperty => "UArrayProperty"
  | .byteProperty => "UByteProperty"
  | .delegateProperty => "UDelegateProperty"
  | .enumProperty => "UEnumProperty"
  | .floatProperty => "UFloatProperty"
  | .interfaceProperty => "UInterfaceProperty"
  | .intProperty => "UIntProperty"
  | .multicastDelegateProperty => "UMulticastDelegateProperty"
  | .objectProperty => "UObjectProperty"
  | .structProperty => "UStructProperty"
  | .classProperty => "UClassProperty"
  | .softClassProperty => "USoftClassProperty"
  | .byteAttributeProperty => "UByteAttributeProperty"
  | .intAttributeProperty => "UIntAttributeProperty"
  | .floatAttributeProperty => "UFloatAttributeProperty"

def ofTypeName? (text : String) : Option Entity :=
  all.find? fun entity => entity.typeName == text

/-- The bases of an entity from the root on, and the entity itself at the end. -/
def lineage : Entity → List Entity
  | .object => [.object]
  | .field => [.object, .field]
  | .property => [.object, .field, .property]
  | .struct => [.object, .field, .struct]
  | .hostClass => [.object, .field, .struct, .hostClass]
  | .function => [.object, .field, .struct, .function]
  | .scriptStruct => [.object, .field, .struct, .scriptStruct]
  | .enum => [.object, .field, .enum]
  | .const => [.object, .field, .const]
  | .classProperty => [.object, .field, .property, .objectProperty, .classProperty]
  | .softClassProperty => [.object, .field, .property, .objectProperty, .softClassProperty]
  | .byteAttributeProperty => [.object, .field, .property, .byteProperty, .byteAttributeProperty]
  | .intAttributeProperty => [.object, .field, .property, .intProperty, .intAttributeProperty]
  | .floatAttributeProperty =>
    [.object, .field, .property, .floatProperty, .floatAttributeProperty]
  | entity => [.object, .field, .property, entity]

def isA (entity base : Entity) : Bool :=
  entity.lineage.contains base

def sharedMembers : Entity → List (Member Label)
  | .scriptStruct => [⟨some .structFlags, .u32⟩]
  | .const => [⟨some .value, .array⟩]
  | .arrayProperty => [⟨some .inner, .address⟩]
  | .byteProperty => [⟨some .enum, .address⟩]
  | .delegateProperty | .multicastDelegateProperty => [⟨some .signature, .address⟩]
  | .enumProperty => [⟨some .underlyingProp, .address⟩, ⟨some .enum, .address⟩]
  | .interfaceProperty => [⟨some .interfaceClass, .address⟩]
  | .objectProperty => [⟨some .propertyClass, .address⟩]
  | .structProperty => [⟨some .struct, .address⟩]
  | .classProperty | .softClassProperty => [⟨some .metaClass, .address⟩]
  | .byteAttributeProperty | .intAttributeProperty | .floatAttributeProperty =>
    [⟨some .modifierStackProperty, .address⟩, ⟨some .otherAttributeProperty, .address⟩]
  | _ => []

def willowMembers : Entity → List (Member Label)
  | .object =>
    [⟨none, .address⟩, ⟨none, .address⟩, ⟨some .objectFlags, .u64⟩, ⟨none, .address⟩,
      ⟨none, .address⟩, ⟨none, .address⟩, ⟨none, .address⟩, ⟨some .internalIndex, .i32⟩,
      ⟨none, .i32⟩, ⟨some .outer, .address⟩, ⟨some .name, .name⟩, ⟨some .hostClass, .address⟩,
      ⟨none, .address⟩]
  | .field => [⟨some .next, .address⟩]
  | .property =>
    [⟨some .arrayDim, .i32⟩, ⟨some .elementSize, .i32⟩, ⟨some .propertyFlags, .u32⟩,
      ⟨none, .reserved 0x14⟩, ⟨some .offsetInternal, .i32⟩, ⟨some .propertyLinkNext, .address⟩,
      ⟨none, .reserved 0x18⟩]
  | .struct =>
    [⟨none, .reserved 0x08⟩, ⟨some .superField, .address⟩, ⟨some .children, .address⟩,
      ⟨some .propertySize, .u16⟩, ⟨none, .reserved 0x1A⟩, ⟨some .propertyLink, .address⟩,
      ⟨none, .reserved 0x10⟩, ⟨some .scriptObjectReferences, .array⟩]
  | .hostClass =>
    [⟨none, .reserved 0xCC⟩, ⟨some .classDefaultObject, .address⟩, ⟨none, .reserved 0x48⟩,
      ⟨some .interfaces, .array⟩]
  | .function =>
    [⟨some .functionFlags, .u32⟩, ⟨none, .u16⟩, ⟨none, .u16⟩, ⟨none, .name⟩, ⟨none, .u8⟩,
      ⟨some .numParams, .u8⟩, ⟨some .paramsSize, .u16⟩, ⟨some .returnValueOffset, .u16⟩,
      ⟨none, .reserved 0x06⟩, ⟨some .func, .address⟩]
  | .enum => [⟨some .names, .array⟩]
  | .boolProperty => [⟨some .fieldMask, .u32⟩]
  | entity => entity.sharedMembers

def oakMembers : Entity → List (Member Label)
  | .object =>
    [⟨none, .address⟩, ⟨some .objectFlags, .i32⟩, ⟨some .internalIndex, .i32⟩,
      ⟨some .hostClass, .address⟩, ⟨some .name, .name⟩, ⟨some .outer, .address⟩]
  | .field => [⟨some .next, .address⟩]
  | .property =>
    [⟨some .arrayDim, .i32⟩, ⟨some .elementSize, .i32⟩, ⟨some .propertyFlags, .u64⟩,
      ⟨none, .u16⟩, ⟨none, .u8⟩, ⟨some .offsetInternal, .i32⟩, ⟨none, .name⟩,
      ⟨some .propertyLinkNext, .address⟩, ⟨none, .address⟩, ⟨none, .address⟩, ⟨none, .address⟩]
  | .struct =>
    [⟨some .superField, .address⟩, ⟨some .children, .address⟩, ⟨some .propertySize, .i32⟩,
      ⟨none, .i32⟩, ⟨none, .array⟩, ⟨some .propertyLink, .address⟩, ⟨none, .address⟩,
      ⟨none, .address⟩, ⟨none, .address⟩, ⟨some .scriptObjectReferences, .array⟩]
  | .hostClass =>
    [⟨none, .reserved 0x70⟩, ⟨some .classDefaultObject, .address⟩, ⟨none, .reserved 0xA0⟩,
      ⟨some .interfaces, .array⟩]
  | .function =>
    [⟨some .functionFlags, .u32⟩, ⟨some .numParams, .u8⟩, ⟨some .paramsSize, .u16⟩,
      ⟨some .returnValueOffset, .u16⟩, ⟨none, .u16⟩, ⟨none, .u16⟩, ⟨none, .address⟩,
      ⟨none, .address⟩, ⟨none, .i32⟩, ⟨some .func, .address⟩]
  | .enum => [⟨none, .array⟩, ⟨some .names, .array⟩, ⟨none, .i64⟩]
  | .boolProperty =>
    [⟨some .fieldSize, .u8⟩, ⟨some .byteOffset, .u8⟩, ⟨some .byteMask, .u8⟩,
      ⟨some .fieldMask, .u8⟩]
  | entity => entity.sharedMembers

def members : Flavour → Entity → List (Member Label)
  | .willow, entity => entity.willowMembers
  | .oak, entity => entity.oakMembers

/-- Willow hosts pack the entities that they define themselves to four bytes; everything else is
aligned naturally. -/
def packing : Flavour → Entity → Nat
  | .willow, .object | .willow, .field | .willow, .property | .willow, .struct
  | .willow, .hostClass | .willow, .function | .willow, .enum | .willow, .boolProperty => 4
  | _, _ => 8

def layout (entity : Entity) (flavour : Flavour) : Record Label :=
  entity.lineage.foldl
    (fun record base => record.extend (packing flavour base) (members flavour base)) Record.empty

def find? (entity : Entity) (flavour : Flavour) (label : Label) : Option (Placed Label) :=
  (entity.layout flavour).find? label

end Entity

end HostBridge
