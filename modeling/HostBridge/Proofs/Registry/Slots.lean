import HostBridge.HostArray
import HostBridge.Proofs.Registry.Contents
import HostBridge.Registry.Walk

namespace HostBridge

open Registry

/-- The answers of a view on some slots, a null address for an empty one. -/
structure Registry.Shows (registry : Registry) (memory : Memory) (slots : List Address) : Prop where
  size : registry.size memory = slots.length
  at_lt : ∀ index, ∀ h : index < slots.length,
    registry.at? memory index = .ok (nonNull? slots[index])
  at_ge : ∀ index, slots.length ≤ index →
    registry.at? memory index = .error (.outOfRange index slots.length)
  visit : ∀ handle count,
    (Walk.visit memory count (Walk.start handle registry memory)).1
      = (List.range count).map fun index => slots[index]?.map nonNull?
  collect : Walk.collect registry memory = slots.map nonNull?

section

variable {registry : Registry} {memory : Memory} {slots : List Address}

theorem Walk.visit_eq (hsize : registry.size memory = slots.length)
    (hslot : ∀ index, ∀ h : index < slots.length, registry.slot memory index = slots[index])
    {walk : Walk} (hregistry : walk.registry = registry) (hbound : walk.bound = slots.length)
    (count : Nat) :
    (visit memory count walk).1
      = (List.range count).map fun step => slots[walk.index + step]?.map nonNull? := by
  induction count generalizing walk with
  | zero => rfl
  | succ count ih =>
      rw [visit, List.range_succ_eq_map, List.map_cons, List.map_map]
      by_cases h : walk.index < walk.bound
      · have hindex : walk.index < slots.length := hbound ▸ h
        have hnext : walk.next? memory = some (nonNull? slots[walk.index],
            { walk with index := walk.index + 1, index_le_bound := h }) := by
          rw [next?, dif_pos h, hregistry, hsize, if_neg (Nat.not_le.mpr hindex), hslot _ hindex]
        have hrest := @ih { walk with index := walk.index + 1, index_le_bound := h } hregistry hbound
        rw [hnext]
        refine List.cons_eq_cons.mpr ⟨?_, hrest.trans ?_⟩
        · rw [Nat.add_zero, List.getElem?_eq_getElem hindex, Option.map_some]
        · refine List.map_congr_left fun step _ => ?_
          rw [Function.comp, Nat.add_right_comm]
          rfl
      · -- The walk has ended, and so it stays where it is.
        have hpast (step : Nat) : slots[walk.index + step]? = none :=
          List.getElem?_eq_none (Nat.le_trans (hbound ▸ Nat.le_of_not_lt h) (Nat.le_add_right _ _))
        have hnext : walk.next? memory = none := dif_neg h
        rw [hnext]
        refine List.cons_eq_cons.mpr ⟨?_, (ih hregistry hbound).trans ?_⟩
        · rw [hpast, Option.map_none]
        · refine List.map_congr_left fun step _ => ?_
          rw [Function.comp, hpast, hpast]

theorem filterMap_range_getElem? {β : Type} (slots : List Address) (f : Address → β) :
    ((List.range slots.length).map fun index => slots[index]?.map f).filterMap id = slots.map f := by
  have hall : (List.range slots.length).map (fun index => slots[index]?.map f)
      = slots.map fun slot => some (f slot) := by
    apply List.ext_getElem
    · rw [List.length_map, List.length_range, List.length_map]
    · intro index hleft hright
      rw [List.length_map] at hright
      rw [List.getElem_map, List.getElem_range, List.getElem_map, List.getElem?_eq_getElem hright,
        Option.map_some]
  rw [hall, List.filterMap_map]
  exact congrFun List.filterMap_eq_map slots

theorem Registry.Shows.of_slots (hsize : registry.size memory = slots.length)
    (hslot : ∀ index, ∀ h : index < slots.length, registry.slot memory index = slots[index]) :
    registry.Shows memory slots := by
  have hvisit (handle count : Nat) :
      (Walk.visit memory count (Walk.start handle registry memory)).1
        = (List.range count).map fun index => slots[index]?.map nonNull? := by
    have hbound : (Walk.start handle registry memory).bound = slots.length := hsize
    rw [Walk.visit_eq hsize hslot rfl hbound]
    simp only [Walk.start, Nat.zero_add]
  have hremaining : (Walk.start 0 registry memory).remaining = slots.length := hsize
  refine ⟨hsize, fun index h => ?_, fun index h => ?_, hvisit, ?_⟩
  · rw [at?, hsize, if_neg (Nat.not_le.mpr h), hslot index h]
  · rw [at?, hsize, if_pos h]
  · rw [Walk.collect, hremaining, hvisit]
    exact filterMap_range_getElem? slots nonNull?

end

/-- Whether a host array holds a list of slots. Without storage all of them are empty. -/
structure HoldsArray (memory : Memory) (header : Address) (slots : List Address) : Prop where
  count : (memory.read header : HostArray).count = Int32.ofNat slots.length
  missing : (memory.read header : HostArray).data = 0 → ∀ slot ∈ slots, slot = 0
  held : (memory.read header : HostArray).data ≠ 0 →
    memory.Holds (memory.read header : HostArray).data slots

theorem HostArray.read_members (memory : Memory) (header : Address) :
    (memory.read header : HostArray).data = memory.read (memberAddress .array .data header) ∧
      (memory.read header : HostArray).count = memory.read (memberAddress .array .count header) := by
  have hparts : (memory.read header : HostArray) =
      ofParts (memory.read header : Address × Int32 × Int32) := rfl
  have hdata : Storage.array.layout.offset .data = 0 := rfl
  have hstart : memberAddress .array .data header = header := by
    rw [memberAddress, hdata, show UInt64.ofNat 0 = 0 from rfl, UInt64.add_zero]
  rw [hparts, Memory.read_pair, Memory.read_pair, hstart]
  exact ⟨rfl, rfl⟩

theorem toNat_count {count : Nat} (h : count < 2 ^ 31) : (Int32.ofNat count).toInt.toNat = count := by
  rw [Int32.toInt_ofNat_of_lt h, Int.toNat_natCast]

theorem HoldsArray.shows {memory : Memory} {header : Address} {slots : List Address}
    (h : HoldsArray memory header slots) (hlength : slots.length < 2 ^ 31) :
    Shows ⟨.willow, header⟩ memory slots := by
  obtain ⟨hcount, hmissing, hheld⟩ := h
  obtain ⟨hdata, hlive⟩ := HostArray.read_members memory header
  rw [hlive] at hcount
  rw [hdata] at hmissing hheld
  refine .of_slots ?_ fun index hindex => ?_
  · simp only [Registry.size, Registry.count, hcount, toNat_count hlength]
  · simp only [Registry.slot]
    by_cases hnull : memory.read (memberAddress .array .data header) = (0 : Address)
    · rw [if_pos hnull]
      exact (hmissing hnull _ (List.getElem_mem hindex)).symm
    · rw [if_neg hnull]
      exact (hheld hnull).read_eq hindex

structure SlotItem where
  object : Address
  flags : Int32
  clusterRootIndex : Int32
  serialNumber : Int32
  /-- What the alignment of the next item leaves unused. -/
  padding : UInt32
  deriving DecidableEq, Repr

namespace SlotItem

def parts (item : SlotItem) : Address × Int32 × Int32 × Int32 × UInt32 :=
  (item.object, item.flags, item.clusterRootIndex, item.serialNumber, item.padding)

def ofParts (parts : Address × Int32 × Int32 × Int32 × UInt32) : SlotItem :=
  ⟨parts.1, parts.2.1, parts.2.2.1, parts.2.2.2.1, parts.2.2.2.2⟩

instance : Stored SlotItem := .via parts ofParts

instance : Stored.Exact SlotItem :=
  Stored.exact_via (show ∀ item, ofParts (parts item) = item from fun _ => rfl) fun _ => rfl

/-- Whether an item holds nothing that a view can see. -/
def IsEmpty (item : SlotItem) : Prop := item.object = 0 ∧ item.serialNumber = 0

theorem read_members (memory : Memory) (address : Address) :
    (memory.read address : SlotItem).object = memory.read (memberAddress .registryItem .object address)
      ∧ (memory.read address : SlotItem).serialNumber
        = memory.read (memberAddress .registryItem .serialNumber address) := by
  have hparts : (memory.read address : SlotItem) =
      ofParts (memory.read address : Address × Int32 × Int32 × Int32 × UInt32) := rfl
  have hstart : memberAddress .registryItem .object address = address := UInt64.add_zero address
  rw [hparts]
  simp only [Memory.read_pair, UInt64.add_assoc, hstart]
  exact ⟨rfl, rfl⟩

end SlotItem

namespace ChunkMap

/-- The items of a list that fall into a chunk. -/
def segment (items : List SlotItem) (number : Nat) : List SlotItem :=
  (items.drop (chunkLength * number)).take chunkLength

/-- Whether a registry holds a list of items, chunk by chunk. What falls into a missing chunk is
empty. -/
structure HoldsItems (map : ChunkMap) (memory : Memory) (items : List SlotItem) : Prop where
  intact : map.Intact memory
  count : map.registry.count memory = Int32.ofNat items.length
  length_le : items.length ≤ map.capacity
  missing : ∀ number, map.chunk number = 0 → ∀ item ∈ segment items number, item.IsEmpty
  held : ∀ number, map.chunk number ≠ 0 → memory.Holds (map.chunk number) (segment items number)
  not_null : ∀ number, map.chunk number ≠ 0 →
    0 ∉ (⟨map.chunk number, Stored.width SlotItem * (segment items number).length⟩ : Region)

variable {map : ChunkMap} {memory : Memory} {items : List SlotItem} {index : Nat}

theorem segment_getElem? (items : List SlotItem) (index : Nat) :
    (segment items (index / chunkLength))[index % chunkLength]? = items[index]? := by
  have hmod : index % chunkLength < chunkLength := Nat.mod_lt _ (by decide)
  rw [segment, List.getElem?_take_of_lt hmod, List.getElem?_drop, Nat.div_add_mod]

theorem HoldsItems.read_eq (h : map.HoldsItems memory items) (hindex : index < items.length) :
    map.registry.slot memory index = items[index].object ∧
      serialAt memory map.header index = items[index].serialNumber := by
  have hitem : (segment items (index / chunkLength))[index % chunkLength]? = some items[index] := by
    rw [segment_getElem?, List.getElem?_eq_getElem hindex]
  obtain ⟨hplace, hget⟩ := List.getElem?_eq_some_iff.mp hitem
  have haddress := itemAddress_eq h.intact (Nat.lt_of_lt_of_le hindex h.length_le)
  simp only [Registry.slot, registry, serialAt, haddress]
  by_cases hthere : map.HasItem index
  · have hread : memory.read (map.item index) = items[index] := by
      rw [← hget]
      exact (h.held _ hthere).read_eq hplace
    have hne : map.item index ≠ 0 := by
      intro hzero
      refine h.not_null _ hthere ?_
      rw [← hzero]
      exact Region.start_add_mem (Nat.mul_lt_mul_of_pos_left hplace (by decide))
    obtain ⟨hobject, hserial⟩ := SlotItem.read_members memory (map.item index)
    rw [if_pos hthere, if_neg hne, if_neg hne, ← hobject, ← hserial, hread]
    exact ⟨rfl, rfl⟩
  · have hmissing : map.chunk (index / chunkLength) = 0 := Decidable.not_not.mp hthere
    have hempty : items[index].IsEmpty := hget ▸ h.missing _ hmissing _ (List.getElem_mem hplace)
    rw [if_neg hthere, if_pos rfl, if_pos rfl]
    exact ⟨hempty.1.symm, hempty.2.symm⟩

theorem HoldsItems.size_eq (h : map.HoldsItems memory items) (hlength : items.length < 2 ^ 31) :
    map.registry.size memory = items.length := by
  rw [Registry.size, h.count, toNat_count hlength]

theorem HoldsItems.shows (h : map.HoldsItems memory items) (hlength : items.length < 2 ^ 31) :
    map.registry.Shows memory (items.map SlotItem.object) := by
  refine .of_slots ?_ fun index hindex => ?_
  · rw [h.size_eq hlength, List.length_map]
  · rw [List.length_map] at hindex
    rw [(h.read_eq hindex).1, List.getElem_map]

/-- Whether a weak reference names a slot that holds an object under the reference's serial. -/
def LeadsTo (items : List SlotItem) (weak : WeakReference) (object : Address) : Prop :=
  weak.serial ≠ 0 ∧ 0 ≤ weak.index ∧ object ≠ 0 ∧ ∃ item,
    items[weak.index.toInt.toNat]? = some item ∧ item.serialNumber = weak.serial ∧
      item.object = object

theorem nonNull?_eq_some {address object : Address} :
    nonNull? address = some object ↔ address = object ∧ object ≠ 0 := by
  rw [nonNull?]
  split
  next hzero => exact ⟨nofun, fun h => absurd (h.1 ▸ hzero) h.2⟩
  next hne =>
    rw [Option.some.injEq]
    exact ⟨fun heq => ⟨heq, heq ▸ hne⟩, And.left⟩

theorem HoldsItems.resolve_eq (h : map.HoldsItems memory items) (hlength : items.length < 2 ^ 31)
    (weak : WeakReference) :
    ∃ found, map.registry.resolve memory weak = .ok found ∧
      ∀ object, found = some object ↔ LeadsTo items weak object := by
  refine ⟨_, resolve_form map memory weak, fun object => ?_⟩
  rw [h.size_eq hlength, LeadsTo]
  have hnull : weak.isNull = true ↔ weak.serial = 0 ∨ weak.index < 0 := by
    rw [WeakReference.isNull, Bool.or_eq_true, beq_iff_eq, decide_eq_true_eq]
  by_cases hlive : weak.index.toInt.toNat < items.length
  · obtain ⟨hobject, hserial⟩ := h.read_eq hlive
    rw [hobject, hserial, List.getElem?_eq_getElem hlive]
    simp only [Bool.or_eq_true, hnull, decide_eq_true_eq, Nat.not_le.mpr hlive, or_false,
      bne_iff_ne, Option.some.injEq, exists_eq_left', ite_eq_iff, reduceCtorEq, and_false, false_or,
      nonNull?_eq_some, not_or, Int32.not_lt, ne_eq, not_not]
    exact ⟨fun ⟨⟨⟨hpos, hnonneg⟩, hequal⟩, hheld, hobject⟩ => ⟨hpos, hnonneg, hobject, hequal, hheld⟩,
      fun ⟨hpos, hnonneg, hobject, hequal, hheld⟩ => ⟨⟨⟨hpos, hnonneg⟩, hequal⟩, hheld, hobject⟩⟩
  · have hpast := Nat.le_of_not_lt hlive
    rw [decide_eq_true hpast, Bool.or_true, Bool.true_or, if_pos rfl, List.getElem?_eq_none hpast]
    exact ⟨nofun, fun ⟨_, _, _, _, hnone, _⟩ => nomatch hnone⟩

end ChunkMap

/-- The two ways in which a registry holds slots. -/
inductive Registry.Holds (memory : Memory) (slots : List Address) : Registry → Prop where
  | flat {header : Address} (held : HoldsArray memory header slots) : Holds memory slots ⟨.willow, header⟩
  | chunked {map : ChunkMap} {items : List SlotItem} (held : map.HoldsItems memory items)
      (objects : items.map SlotItem.object = slots) : Holds memory slots map.registry

theorem Registry.Holds.shows {registry : Registry} {memory : Memory} {slots : List Address}
    (h : registry.Holds memory slots) (hlength : slots.length < 2 ^ 31) :
    registry.Shows memory slots := by
  cases h with
  | flat held => exact held.shows hlength
  | chunked held objects =>
      subst objects
      rw [List.length_map] at hlength
      exact held.shows hlength

theorem size_of_negative {registry : Registry} {memory : Memory}
    (h : registry.count memory < 0) : registry.size memory = 0 := by
  rw [Int32.lt_iff_toInt_lt, Int32.toInt_zero] at h
  exact Int.toNat_of_nonpos (Int.le_of_lt h)

/-- A registry view is a list of slots, however the host stores it, and a weak reference leads to
the object of the slot that it names if it carries the serial in it. -/
theorem shows_slots {slots : List Address} (hlength : slots.length < 2 ^ 31) :
    (∀ registry : Registry, ∀ memory, registry.Holds memory slots → registry.Shows memory slots) ∧
    (∀ left right : Registry, ∀ memory memory', left.Holds memory slots → right.Holds memory' slots →
      left.size memory = right.size memory' ∧
      (∀ index, left.at? memory index = right.at? memory' index) ∧
      (∀ handle handle' count, (Walk.visit memory count (Walk.start handle left memory)).1
        = (Walk.visit memory' count (Walk.start handle' right memory')).1) ∧
      Walk.collect left memory = Walk.collect right memory') ∧
    (∀ registry : Registry, ∀ memory, registry.count memory < 0 → registry.size memory = 0) ∧
    (∀ map : ChunkMap, ∀ memory items, map.HoldsItems memory items →
      items.map SlotItem.object = slots → ∀ weak : WeakReference,
        ∃ found, map.registry.resolve memory weak = .ok found ∧
          ∀ object, found = some object ↔ ChunkMap.LeadsTo items weak object) := by
  have hshows (registry : Registry) (memory : Memory) (h : registry.Holds memory slots) :
      registry.Shows memory slots := h.shows hlength
  refine ⟨hshows, ?_, fun registry memory => size_of_negative, ?_⟩
  · intro left right memory memory' hleft hright
    have hleft := hshows left memory hleft
    have hright := hshows right memory' hright
    refine ⟨hleft.size.trans hright.size.symm, fun index => ?_, fun handle handle' count => ?_,
      hleft.collect.trans hright.collect.symm⟩
    · by_cases h : index < slots.length
      · rw [hleft.at_lt index h, hright.at_lt index h]
      · rw [hleft.at_ge index (Nat.le_of_not_lt h), hright.at_ge index (Nat.le_of_not_lt h)]
    · rw [hleft.visit, hright.visit]
  · intro map memory items hitems hobjects weak
    rw [← hobjects, List.length_map] at hlength
    exact hitems.resolve_eq hlength weak

/-- One object in the second chunk; the first chunk is missing. -/
def sparseItems : List SlotItem := List.replicate 65536 ⟨0, 0, 0, 0, 0⟩ ++ [⟨0x5000, 0, 0, 7, 0⟩]

def sparseMap : ChunkMap := ⟨0x1000, 0x2000, [0, 0x1000000]⟩

def sparseMemory : Memory :=
  (sparseMap.writeField .count (65537 : Int32) sparseMap.blank).write (0x1000000 : Address)
    (⟨0x5000, 0, 0, 7, 0⟩ : SlotItem)

def sparseSlots : List Address := sparseItems.map SlotItem.object

def sparseArray : Memory :=
  (Memory.zeroed.write (0x10 : Address) (⟨0x100, 65537, 65537⟩ : HostArray)).store (0x100 : Address)
    (sparseSlots.flatMap Stored.encode)

theorem length_sparseItems : sparseItems.length = 65537 := by
  rw [sparseItems, List.length_append, List.length_replicate]
  rfl

theorem segment_sparseItems (number : Nat) :
    ChunkMap.segment sparseItems number =
      if number = 0 then List.replicate 65536 ⟨0, 0, 0, 0, 0⟩
      else if number = 1 then [⟨0x5000, 0, 0, 7, 0⟩] else [] := by
  rw [ChunkMap.segment]
  match number with
  | 0 => exact List.take_left' List.length_replicate
  | 1 =>
    have hdrop : sparseItems.drop (chunkLength * 1) = [⟨0x5000, 0, 0, 7, 0⟩] :=
      List.drop_left' List.length_replicate
    rw [hdrop]
    rfl
  | number + 2 =>
    have hdrop : sparseItems.drop (chunkLength * (number + 2)) = [] := by
      refine List.drop_eq_nil_of_le ?_
      rw [length_sparseItems, chunkLength]
      omega
    rw [hdrop]
    rfl

theorem holdsItems_sparse : sparseMap.HoldsItems sparseMemory sparseItems where
  intact := ⟨by decide +kernel, fun _ => by decide +kernel⟩
  count := by
    rw [length_sparseItems]
    decide +kernel
  length_le := by
    rw [length_sparseItems]
    decide
  missing number hmissing item hitem := by
    rw [segment_sparseItems] at hitem
    match number with
    | 0 => exact List.eq_of_mem_replicate hitem ▸ ⟨rfl, rfl⟩
    | 1 => exact absurd hmissing (by decide)
    | number + 2 => exact absurd hitem List.not_mem_nil
  held number hthere := by
    rw [segment_sparseItems]
    match number with
    | 0 => exact absurd rfl hthere
    | 1 => decide +kernel
    | number + 2 => exact absurd rfl hthere
  not_null number hthere := by
    rw [segment_sparseItems]
    match number with
    | 0 => exact absurd rfl hthere
    | 1 => decide
    | number + 2 => exact absurd rfl hthere

theorem holdsArray_sparse : HoldsArray sparseArray 0x10 sparseSlots := by
  have hlength : sparseSlots.length = 65537 := by
    rw [sparseSlots, List.length_map, length_sparseItems]
  have hheader : sparseArray.read 0x10 = (⟨0x100, 65537, 65537⟩ : HostArray) := by
    have hdisjoint : Region.Disjoint ⟨0x100, (sparseSlots.flatMap Stored.encode).length⟩
        (Stored.extent HostArray 0x10) := by
      rw [Memory.length_flatMap_encode, hlength]
      exact (Region.disjoint_of_end_le (by decide) (by decide)).symm
    exact (Memory.eqOn_store hdisjoint).read_eq.trans (Memory.read_write_self (by decide))
  refine ⟨?_, fun hnull => ?_, fun _ => ?_⟩
  · rw [hheader, hlength]
    rfl
  · rw [hheader] at hnull
    exact absurd hnull (by decide)
  · rw [hheader]
    exact Memory.holds_store (by rw [hlength]; decide)

theorem shows_sparse :
    sparseSlots.length < 2 ^ 31 ∧
      Walk.collect ⟨.willow, 0x10⟩ sparseArray = Walk.collect sparseMap.registry sparseMemory ∧
      sparseMap.registry.resolve sparseMemory ⟨65536, 7⟩ = .ok (some 0x5000) := by
  have hlength : sparseSlots.length < 2 ^ 31 := by
    rw [sparseSlots, List.length_map, length_sparseItems]
    decide
  obtain ⟨-, hsame, -, hweak⟩ := shows_slots hlength
  obtain ⟨-, -, -, hcollect⟩ := hsame ⟨.willow, 0x10⟩ sparseMap.registry sparseArray sparseMemory
    (.flat holdsArray_sparse) (.chunked holdsItems_sparse rfl)
  obtain ⟨found, hresolve, hfound⟩ := hweak sparseMap sparseMemory sparseItems holdsItems_sparse rfl
    ⟨65536, 7⟩
  have hitem : sparseItems[65536]? = some ⟨0x5000, 0, 0, 7, 0⟩ := by
    rw [sparseItems, List.getElem?_append_right (Nat.le_of_eq List.length_replicate),
      List.length_replicate]
    rfl
  have hobject : found = some 0x5000 :=
    (hfound 0x5000).mpr ⟨by decide, by decide, by decide, _, hitem, rfl, rfl⟩
  exact ⟨hlength, hcollect, hobject ▸ hresolve⟩

end HostBridge
