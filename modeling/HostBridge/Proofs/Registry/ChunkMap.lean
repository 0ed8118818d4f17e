import HostBridge.Proofs.Memory.Region
import HostBridge.Registry.Weak
import Mathlib.Logic.Function.Basic

/-!
# Oak registries in memory

A `ChunkMap` says where an oak registry lies: its header, the table of its chunks and the chunks
themselves. While the pointers among them are `Intact` the registry reads as its `Contents`, and if
its parts are `Apart` a write to one field changes that field of the contents and nothing else.
-/

namespace HostBridge

open Registry

/-- Where an oak registry lies. A table or a chunk that is missing is null. -/
structure ChunkMap where
  header : Address
  table : Address
  chunks : List Address
  deriving DecidableEq, Repr

namespace ChunkMap

def registry (map : ChunkMap) : Registry := ⟨.oak, map.header⟩

def capacity (map : ChunkMap) : Nat := chunkLength * map.chunks.length

def chunk (map : ChunkMap) (number : Nat) : Address :=
  if map.table = 0 then 0 else map.chunks.getD number 0

def HasItem (map : ChunkMap) (index : Nat) : Prop := map.chunk (index / chunkLength) ≠ 0

instance (map : ChunkMap) (index : Nat) : Decidable (map.HasItem index) :=
  inferInstanceAs (Decidable (_ ≠ _))

def item (map : ChunkMap) (index : Nat) : Address :=
  map.chunk (index / chunkLength)
    + UInt64.ofNat (Storage.registryItem.layout.size * (index % chunkLength))

/-- Whether the pointers of the registry are in memory. -/
structure Intact (map : ChunkMap) (memory : Memory) : Prop where
  table : memory.read (memberAddress .registry .objects map.header) = map.table
  chunks : map.table ≠ 0 → memory.Holds map.table map.chunks

variable {map : ChunkMap} {memory : Memory} {index : Nat}

theorem lt_capacity_of_hasItem (h : map.HasItem index) : index < map.capacity := by
  have hnumber : index / chunkLength < map.chunks.length := by
    refine Nat.lt_of_not_le fun hle => h ?_
    simp [chunk, List.getElem?_eq_none hle]
  rw [capacity, Nat.mul_comm]
  exact Nat.lt_mul_of_div_lt hnumber (by decide)

theorem itemAddress_eq (hintact : map.Intact memory) (h : index < map.capacity) :
    itemAddress memory map.header index = if map.HasItem index then map.item index else 0 := by
  have hnumber : index / chunkLength < map.chunks.length :=
    Nat.div_lt_of_lt_mul h
  rw [itemAddress, hintact.table]
  by_cases htable : map.table = 0
  · simp [HasItem, chunk, htable]
  · have hread := (hintact.chunks htable).read_eq hnumber
    have hchunk : map.chunk (index / chunkLength) = map.chunks[index / chunkLength] := by
      simp [chunk, htable, hnumber]
    simp only [htable, if_false]
    rw [show memory.read (map.table + UInt64.ofNat (8 * (index / chunkLength))) =
      map.chunk (index / chunkLength) from hread.trans hchunk.symm]
    by_cases hmissing : map.chunk (index / chunkLength) = 0 <;> simp [HasItem, item, hmissing]

/-- The parts of a registry: its header, its chunk table, and the item of each slot. -/
inductive Part where
  | header
  | table
  | item (index : Nat)
  deriving DecidableEq

/-- The fields of a registry that are read and written, apart from the chunk table. -/
inductive Field where
  | table
  | count
  | master
  | object (index : Nat)
  | serial (index : Nat)
  deriving DecidableEq

def headerRegion (map : ChunkMap) : Region := ⟨map.header, Storage.registry.layout.size⟩

def tableRegion (map : ChunkMap) : Region :=
  ⟨map.table, Stored.width Address * map.chunks.length⟩

def chunkRegion (map : ChunkMap) (number : Nat) : Region :=
  ⟨map.chunk number, Storage.registryItem.layout.size * chunkLength⟩

def partRegion (map : ChunkMap) : Part → Region
  | .header => map.headerRegion
  | .table => map.tableRegion
  | .item index => (map.chunkRegion (index / chunkLength)).part
      (Storage.registryItem.layout.size * (index % chunkLength)) Storage.registryItem.layout.size

def HasPart (map : ChunkMap) : Part → Prop
  | .header => True
  | .table => map.table ≠ 0
  | .item index => map.HasItem index

def Field.part : Field → Part
  | .table | .count | .master => .header
  | .object index | .serial index => .item index

def Field.offset : Field → Nat
  | .table => 0x10
  | .count => 0x24
  | .master => 0xA8
  | .object _ => 0
  | .serial _ => 0x10

def Field.width : Field → Nat
  | .table | .object _ => 8
  | .count | .master | .serial _ => 4

def fieldRegion (map : ChunkMap) (field : Field) : Region :=
  (map.partRegion field.part).part field.offset field.width

/-- Whether the parts of a registry lie in disjoint memory, none of it at the null address. -/
structure Apart (map : ChunkMap) : Prop where
  header_table : map.table ≠ 0 → map.headerRegion.Disjoint map.tableRegion
  header_chunk : ∀ number, map.chunk number ≠ 0 →
    map.headerRegion.Disjoint (map.chunkRegion number)
  table_chunk : ∀ number, map.chunk number ≠ 0 →
    map.tableRegion.Disjoint (map.chunkRegion number)
  chunk_chunk : ∀ number number', number ≠ number' → map.chunk number ≠ 0 →
    map.chunk number' ≠ 0 → (map.chunkRegion number).Disjoint (map.chunkRegion number')
  not_null : ∀ number, map.chunk number ≠ 0 → 0 ∉ map.chunkRegion number

theorem partRegion_item_subset (map : ChunkMap) (index : Nat) :
    map.partRegion (.item index) ⊆ map.chunkRegion (index / chunkLength) := by
  refine Region.part_subset ?_
  have hindex : index % chunkLength < chunkLength := Nat.mod_lt _ (by decide)
  have := Nat.mul_le_mul_left Storage.registryItem.layout.size (Nat.succ_le_of_lt hindex)
  rw [Nat.mul_succ] at this
  exact this

theorem Apart.item_disjoint {index' : Nat} (hapart : map.Apart) (hne : index ≠ index')
    (h : map.HasItem index) (h' : map.HasItem index') :
    (map.partRegion (.item index)).Disjoint (map.partRegion (.item index')) := by
  by_cases hchunk : index / chunkLength = index' / chunkLength
  · have hsize : Storage.registryItem.layout.size = 24 := rfl
    simp only [partRegion, hchunk, hsize]
    simp only [chunkLength] at hchunk ⊢
    rcases Nat.lt_or_gt_of_ne hne with hlt | hgt
    · exact Region.part_disjoint (by omega) (by omega)
    · exact (Region.part_disjoint (by omega) (by omega)).symm
  · exact ((hapart.chunk_chunk _ _ hchunk h h').mono_left
      (map.partRegion_item_subset index)).mono_right (map.partRegion_item_subset index')

theorem Apart.part_disjoint {part part' : Part} (hapart : map.Apart) (hne : part ≠ part')
    (h : map.HasPart part) (h' : map.HasPart part') :
    (map.partRegion part).Disjoint (map.partRegion part') := by
  cases part with
  | header =>
      cases part' with
      | header => exact absurd rfl hne
      | table => exact hapart.header_table h'
      | item index' =>
          exact (hapart.header_chunk _ h').mono_right (map.partRegion_item_subset index')
  | table =>
      cases part' with
      | header => exact (hapart.header_table h).symm
      | table => exact absurd rfl hne
      | item index' =>
          exact (hapart.table_chunk _ h').mono_right (map.partRegion_item_subset index')
  | item index =>
      cases part' with
      | header =>
          exact ((hapart.header_chunk _ h).mono_right (map.partRegion_item_subset index)).symm
      | table =>
          exact ((hapart.table_chunk _ h).mono_right (map.partRegion_item_subset index)).symm
      | item index' =>
          exact hapart.item_disjoint (fun heq => hne (congrArg Part.item heq)) h h'

theorem fieldRegion_subset (map : ChunkMap) (field : Field) :
    map.fieldRegion field ⊆ map.partRegion field.part := by
  refine Region.part_subset ?_
  have hheader : (map.partRegion .header).size = 0xB0 := rfl
  have hitem (index : Nat) : (map.partRegion (.item index)).size = 24 := rfl
  cases field <;> simp [Field.part, Field.offset, Field.width, hheader, hitem]

theorem Field.separate {field field' : Field} (hne : field ≠ field')
    (hpart : field.part = field'.part) :
    field.offset + field.width ≤ field'.offset ∨ field'.offset + field'.width ≤ field.offset := by
  cases field <;> cases field' <;> simp_all [Field.part, Field.offset, Field.width]

theorem Field.end_le (field : Field) : field.offset + field.width ≤ 2 ^ 64 := by
  cases field <;> simp only [Field.offset, Field.width] <;> decide

theorem Apart.field_disjoint {field field' : Field} (hapart : map.Apart) (hne : field ≠ field')
    (h : map.HasPart field.part) (h' : map.HasPart field'.part) :
    (map.fieldRegion field).Disjoint (map.fieldRegion field') := by
  by_cases hpart : field.part = field'.part
  · rw [fieldRegion, fieldRegion, hpart]
    rcases Field.separate hne hpart with hbefore | hafter
    · exact Region.part_disjoint hbefore field'.end_le
    · exact (Region.part_disjoint hafter field.end_le).symm
  · exact ((hapart.part_disjoint hpart h h').mono_left (map.fieldRegion_subset field)).mono_right
      (map.fieldRegion_subset field')

end ChunkMap

end HostBridge
