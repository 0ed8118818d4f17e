import HostBridge.Layout.OffsetTable

namespace HostBridge

inductive StorageLabel where
  | index | number
  | data | count | max
  | key | value
  | objectIndex | objectSerialNumber
  | object | flags | clusterRootIndex | serialNumber
  | objFirstGcIndex | objLastNonGcIndex | maxObjectsNotConsideredByGc | openForDisregardForGc
  | objects | preAllocatedObjects | maxElements | numElements | maxChunks | numChunks
  | masterSerialNumber
  deriving DecidableEq, Repr

inductive Storage where
  | name | array | managedString | pair | weakReference
  | registryItem | chunkedItems | registry
  | offsetTable
  /-- Passed by address only. -/
  | frame
  deriving DecidableEq, Repr

namespace StorageLabel

def all : List StorageLabel :=
  [.index, .number, .data, .count, .max, .key, .value, .objectIndex, .objectSerialNumber, .object,
    .flags, .clusterRootIndex, .serialNumber, .objFirstGcIndex, .objLastNonGcIndex,
    .maxObjectsNotConsideredByGc, .openForDisregardForGc, .objects, .preAllocatedObjects,
    .maxElements, .numElements, .maxChunks, .numChunks, .masterSerialNumber]

def text : StorageLabel → String
  | .index => "index"
  | .number => "number"
  | .data => "data"
  | .count => "count"
  | .max => "max"
  | .key => "key"
  | .value => "value"
  | .objectIndex => "object_index"
  | .objectSerialNumber => "object_serial_number"
  | .object => "object"
  | .flags => "flags"
  | .clusterRootIndex => "cluster_root_index"
  | .serialNumber => "serial_number"
  | .objFirstGcIndex => "obj_first_gc_index"
  | .objLastNonGcIndex => "obj_last_non_gc_index"
  | .maxObjectsNotConsideredByGc => "max_objects_not_considered_by_gc"
  | .openForDisregardForGc => "open_for_disregard_for_gc"
  | .objects => "objects"
  | .preAllocatedObjects => "pre_allocated_objects"
  | .maxElements => "max_elements"
  | .numElements => "num_elements"
  | .maxChunks => "max_chunks"
  | .numChunks => "num_chunks"
  | .masterSerialNumber => "master_serial_number"

def ofText? (text : String) : Option StorageLabel :=
  all.find? fun label => label.text == text

end StorageLabel

namespace Storage

def all : List Storage :=
  [.name, .array, .managedString, .pair, .weakReference, .registryItem, .chunkedItems, .registry,
    .offsetTable, .frame]

def typeName : Storage → String
  | .name => "FName"
  | .array => "TArray"
  | .managedString => "UnmanagedFString"
  | .pair => "TPair"
  | .weakReference => "FWeakObjectPtr"
  | .registryItem => "FUObjectItem"
  | .chunkedItems => "FChunkedFixedUObjectArray"
  | .registry => "FUObjectArray"
  | .offsetTable => "OffsetList"
  | .frame => "FFrame"

def ofTypeName? (text : String) : Option Storage :=
  all.find? fun storage => storage.typeName == text

def chunkedMembers : List (Member StorageLabel) :=
  [⟨some .objects, .address⟩, ⟨some .preAllocatedObjects, .address⟩, ⟨some .maxElements, .i32⟩,
    ⟨some .numElements, .i32⟩, ⟨some .maxChunks, .i32⟩, ⟨some .numChunks, .i32⟩]

def members : Storage → List (Member StorageLabel)
  | .name => [⟨some .index, .i32⟩, ⟨some .number, .i32⟩]
  | .array | .managedString => [⟨some .data, .address⟩, ⟨some .count, .i32⟩, ⟨some .max, .i32⟩]
  | .pair => [⟨some .key, .name⟩, ⟨some .value, .u64⟩]
  | .weakReference => [⟨some .objectIndex, .i32⟩, ⟨some .objectSerialNumber, .i32⟩]
  | .registryItem =>
    [⟨some .object, .address⟩, ⟨some .flags, .i32⟩, ⟨some .clusterRootIndex, .i32⟩,
      ⟨some .serialNumber, .i32⟩]
  | .chunkedItems => chunkedMembers
  | .registry =>
    [⟨some .objFirstGcIndex, .i32⟩, ⟨some .objLastNonGcIndex, .i32⟩,
      ⟨some .maxObjectsNotConsideredByGc, .i32⟩, ⟨some .openForDisregardForGc, .truth⟩]
      ++ chunkedMembers
      ++ [⟨none, .reserved 0x28⟩, ⟨none, .reserved 0x08⟩, ⟨none, .array⟩, ⟨none, .array⟩,
        ⟨none, .reserved 0x28⟩, ⟨some .masterSerialNumber, .i32⟩]
  | .offsetTable => List.replicate OffsetTable.count ⟨none, .u16⟩
  | .frame => []

def layout (storage : Storage) : Record StorageLabel :=
  Record.empty.extend 8 storage.members

end Storage

end HostBridge
