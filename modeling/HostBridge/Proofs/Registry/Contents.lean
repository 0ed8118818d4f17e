import HostBridge.Proofs.Registry.ChunkMap

namespace HostBridge

open Registry

namespace ChunkMap

/-- What an oak registry holds. A slot without an item is empty and has no serial. -/
@[ext]
structure Contents where
  count : Int32
  master : Int32
  object : Nat → Address
  serial : Nat → Int32

namespace Contents

def size (contents : Contents) : Nat := contents.count.toInt.toNat

def resolve (contents : Contents) (weak : WeakReference) : Option Address :=
  let index := weak.index.toInt.toNat
  if weak.isNull || contents.size ≤ index || contents.serial index != weak.serial then none
  else nonNull? (contents.object index)

def assign (contents : Contents) (index : Nat) : Contents :=
  { contents with
    master := contents.master + 1
    serial := Function.update contents.serial index (contents.master + 1) }

end Contents

def contents (map : ChunkMap) (memory : Memory) : Contents where
  count := memory.read (map.fieldRegion .count).start
  master := memory.read (map.fieldRegion .master).start
  object index :=
    if map.HasItem index then memory.read (map.fieldRegion (.object index)).start else 0
  serial index :=
    if map.HasItem index then memory.read (map.fieldRegion (.serial index)).start else 0

def writeField {α : Type} [Stored α] (map : ChunkMap) (field : Field) (value : α)
    (memory : Memory) : Memory :=
  memory.write (map.fieldRegion field).start value

variable {map : ChunkMap} {memory : Memory} {index : Nat}

theorem item_ne_zero (hapart : map.Apart) (h : map.HasItem index) : map.item index ≠ 0 := by
  intro hnull
  refine hapart.not_null _ h ?_
  rw [← hnull]
  have hlt : Storage.registryItem.layout.size * (index % chunkLength)
      < (map.chunkRegion (index / chunkLength)).size :=
    Nat.mul_lt_mul_of_pos_left (Nat.mod_lt _ (by decide)) (by decide)
  exact Region.start_add_mem hlt

theorem masterSerial_eq (map : ChunkMap) (memory : Memory) :
    masterSerial memory map.header = (map.contents memory).master := rfl

theorem size_eq (map : ChunkMap) (memory : Memory) :
    map.registry.size memory = (map.contents memory).size := rfl

theorem slot_eq (hapart : map.Apart) (hintact : map.Intact memory) (h : index < map.capacity) :
    map.registry.slot memory index = (map.contents memory).object index := by
  simp only [Registry.slot, registry, contents, itemAddress_eq hintact h]
  split
  · next hitem =>
      rw [if_neg (item_ne_zero hapart hitem)]
      rfl
  · rfl

theorem serialAt_eq (hapart : map.Apart) (hintact : map.Intact memory) (h : index < map.capacity) :
    serialAt memory map.header index = (map.contents memory).serial index := by
  simp only [serialAt, contents, itemAddress_eq hintact h]
  split
  · next hitem =>
      rw [if_neg (item_ne_zero hapart hitem)]
      rfl
  · rfl

theorem resolve_form (map : ChunkMap) (memory : Memory) (weak : WeakReference) :
    map.registry.resolve memory weak = .ok
      (if weak.isNull || map.registry.size memory ≤ weak.index.toInt.toNat
          || serialAt memory map.header weak.index.toInt.toNat != weak.serial then none
        else nonNull? (map.registry.slot memory weak.index.toInt.toNat)) :=
  (apply_ite Except.ok _ _ _).symm

theorem resolve_eq (hapart : map.Apart) (hintact : map.Intact memory)
    (hsize : map.registry.size memory ≤ map.capacity) (weak : WeakReference) :
    map.registry.resolve memory weak = .ok ((map.contents memory).resolve weak) := by
  rw [resolve_form, Contents.resolve, ← size_eq]
  by_cases hlive : map.registry.size memory ≤ weak.index.toInt.toNat
  · simp only [hlive, decide_true, Bool.or_true, Bool.true_or, if_true]
  · have hlt : weak.index.toInt.toNat < map.capacity :=
      Nat.lt_of_lt_of_le (Nat.lt_of_not_le hlive) hsize
    rw [serialAt_eq hapart hintact hlt, slot_eq hapart hintact hlt]

section Writing

variable {α β : Type} [Stored α] [Stored β] {field field' : Field}

theorem extent_field (map : ChunkMap) (hwidth : Stored.width α = field.width) :
    Stored.extent α (map.fieldRegion field).start = map.fieldRegion field := by
  rw [Stored.extent, hwidth, fieldRegion]
  rfl

theorem read_writeField_self [Stored.Exact α] (map : ChunkMap) (memory : Memory) {value : α}
    (hwidth : Stored.width α = field.width) :
    (map.writeField field value memory).read (map.fieldRegion field).start = value :=
  Memory.read_write_self (hwidth ▸ Nat.le_trans (Nat.le_add_left _ _) field.end_le)

theorem read_writeField_of_ne [Stored.Exact α] (hapart : map.Apart) {value : α}
    (hwidth : Stored.width α = field.width) (hwidth' : Stored.width β = field'.width)
    (hne : field ≠ field') (h : map.HasPart field.part) (h' : map.HasPart field'.part) :
    ((map.writeField field value memory).read (map.fieldRegion field').start : β)
      = memory.read (map.fieldRegion field').start := by
  refine Memory.read_write_of_disjoint ?_
  rw [extent_field map hwidth, extent_field map hwidth']
  exact hapart.field_disjoint hne h h'

variable [Stored.Exact α] {value : α}

theorem count_writeField (hapart : map.Apart) (hwidth : Stored.width α = field.width)
    (h : map.HasPart field.part) (hne : field ≠ .count) :
    (map.contents (map.writeField field value memory)).count = (map.contents memory).count :=
  read_writeField_of_ne hapart hwidth rfl hne h trivial

theorem master_writeField (hapart : map.Apart) (hwidth : Stored.width α = field.width)
    (h : map.HasPart field.part) (hne : field ≠ .master) :
    (map.contents (map.writeField field value memory)).master = (map.contents memory).master :=
  read_writeField_of_ne hapart hwidth rfl hne h trivial

theorem object_writeField (hapart : map.Apart) (hwidth : Stored.width α = field.width)
    (h : map.HasPart field.part) (hne : field ≠ .object index) :
    (map.contents (map.writeField field value memory)).object index
      = (map.contents memory).object index := by
  simp only [contents]
  split
  · next hitem => exact read_writeField_of_ne hapart hwidth rfl hne h hitem
  · rfl

theorem serial_writeField (hapart : map.Apart) (hwidth : Stored.width α = field.width)
    (h : map.HasPart field.part) (hne : field ≠ .serial index) :
    (map.contents (map.writeField field value memory)).serial index
      = (map.contents memory).serial index := by
  simp only [contents]
  split
  · next hitem => exact read_writeField_of_ne hapart hwidth rfl hne h hitem
  · rfl

/-- No write to a field but the pointer to the chunk table changes a pointer. -/
theorem Intact.writeField (hintact : map.Intact memory) (hapart : map.Apart)
    (hwidth : Stored.width α = field.width) (h : map.HasPart field.part) (hne : field ≠ .table) :
    map.Intact (map.writeField field value memory) where
  table := by
    have hread : ((map.writeField field value memory).read (map.fieldRegion .table).start : Address)
        = memory.read (map.fieldRegion .table).start :=
      read_writeField_of_ne hapart hwidth rfl hne h trivial
    exact hread.trans hintact.table
  chunks htable := by
    refine (hintact.chunks htable).congr fun address hmem => (Memory.eqOn_write ?_ address hmem).symm
    rw [extent_field map hwidth]
    have hpart : field.part ≠ .table := by
      cases field <;> simp [Field.part]
    exact (hapart.part_disjoint hpart h htable).mono_left (map.fieldRegion_subset field)

theorem contents_writeCount (hapart : map.Apart) (value : Int32) :
    map.contents (map.writeField .count value memory)
      = { map.contents memory with count := value } := by
  apply Contents.ext
  · exact read_writeField_self map memory rfl
  · exact master_writeField hapart rfl trivial (by decide)
  · exact funext fun index => object_writeField hapart rfl trivial (by simp)
  · exact funext fun index => serial_writeField hapart rfl trivial (by simp)

theorem contents_writeMaster (hapart : map.Apart) (value : Int32) :
    map.contents (map.writeField .master value memory)
      = { map.contents memory with master := value } := by
  apply Contents.ext
  · exact count_writeField hapart rfl trivial (by decide)
  · exact read_writeField_self map memory rfl
  · exact funext fun index => object_writeField hapart rfl trivial (by simp)
  · exact funext fun index => serial_writeField hapart rfl trivial (by simp)

theorem contents_writeObject (hapart : map.Apart) (hitem : map.HasItem index) (value : Address) :
    map.contents (map.writeField (.object index) value memory)
      = { map.contents memory with
          object := Function.update (map.contents memory).object index value } := by
  apply Contents.ext
  · exact count_writeField hapart rfl hitem (by simp)
  · exact master_writeField hapart rfl hitem (by simp)
  · funext index'
    change _ = Function.update (map.contents memory).object index value index'
    by_cases heq : index' = index
    · subst heq
      rw [Function.update_self]
      simp only [contents, if_pos hitem]
      exact read_writeField_self map memory rfl
    · rw [Function.update_of_ne heq]
      exact object_writeField hapart rfl hitem (by simpa using Ne.symm heq)
  · exact funext fun index' => serial_writeField hapart rfl hitem (by simp)

theorem contents_writeSerial (hapart : map.Apart) (hitem : map.HasItem index) (value : Int32) :
    map.contents (map.writeField (.serial index) value memory)
      = { map.contents memory with
          serial := Function.update (map.contents memory).serial index value } := by
  apply Contents.ext
  · exact count_writeField hapart rfl hitem (by simp)
  · exact master_writeField hapart rfl hitem (by simp)
  · exact funext fun index' => object_writeField hapart rfl hitem (by simp)
  · funext index'
    change _ = Function.update (map.contents memory).serial index value index'
    by_cases heq : index' = index
    · subst heq
      rw [Function.update_self]
      simp only [contents, if_pos hitem]
      exact read_writeField_self map memory rfl
    · rw [Function.update_of_ne heq]
      exact serial_writeField hapart rfl hitem (by simpa using Ne.symm heq)

end Writing

theorem contents_congr {memory' : Memory}
    (heq : ∀ part, map.HasPart part → Memory.EqOn (map.partRegion part) memory' memory) :
    map.contents memory' = map.contents memory := by
  have hread {α : Type} [Stored α] {field : Field} (hwidth : Stored.width α = field.width)
      (h : map.HasPart field.part) : (memory'.read (map.fieldRegion field).start : α)
        = memory.read (map.fieldRegion field).start := by
    refine Memory.EqOn.read_eq ?_
    rw [extent_field map hwidth]
    exact (heq _ h).mono (map.fieldRegion_subset field)
  apply Contents.ext
  · exact hread rfl trivial
  · exact hread rfl trivial
  · funext index
    simp only [contents]
    split
    · next hitem => exact hread rfl hitem
    · rfl
  · funext index
    simp only [contents]
    split
    · next hitem => exact hread rfl hitem
    · rfl

theorem Intact.congr {memory' : Memory} (hintact : map.Intact memory)
    (heq : ∀ part, map.HasPart part → Memory.EqOn (map.partRegion part) memory' memory) :
    map.Intact memory' where
  table := by
    refine Eq.trans (Memory.EqOn.read_eq ?_) hintact.table
    exact (heq .header trivial).mono (map.fieldRegion_subset .table)
  chunks htable :=
    (hintact.chunks htable).congr fun address hmem => (heq .table htable address hmem).symm

def blank (map : ChunkMap) : Memory :=
  let memory := map.writeField .table map.table .zeroed
  if map.table = 0 then memory else memory.store map.table (map.chunks.flatMap Stored.encode)

theorem storeRegion_table (map : ChunkMap) :
    (⟨map.table, (map.chunks.flatMap Stored.encode).length⟩ : Region) = map.partRegion .table := by
  rw [Memory.length_flatMap_encode]
  rfl

theorem eqOn_blank {region : Region}
    (hregion : map.table ≠ 0 → (map.partRegion .table).Disjoint region) :
    Memory.EqOn region map.blank (map.writeField .table map.table .zeroed) := by
  rw [blank]
  split
  · exact fun _ _ => rfl
  next htable =>
    refine Memory.eqOn_store ?_
    rw [storeRegion_table]
    exact hregion htable

theorem intact_blank (hapart : map.Apart) : map.Intact map.blank where
  table := by
    have hdisjoint (htable : map.table ≠ 0) :
        (map.partRegion .table).Disjoint (map.fieldRegion .table) :=
      (hapart.header_table htable).symm.mono_right (map.fieldRegion_subset .table)
    have hread : (map.blank.read (map.fieldRegion .table).start : Address)
        = (map.writeField .table map.table .zeroed).read (map.fieldRegion .table).start := by
      refine Memory.EqOn.read_eq ?_
      rw [extent_field map rfl]
      exact eqOn_blank hdisjoint
    exact hread.trans (read_writeField_self map .zeroed rfl)
  chunks htable := by
    have hheader : 0 < map.headerRegion.size := show 0 < Storage.registry.layout.size by decide
    have hsize := (hapart.header_table htable).size_lt hheader
    rw [blank, if_neg htable]
    exact Memory.holds_store (Nat.le_of_lt hsize)

theorem read_blank (hapart : map.Apart) {α : Type} [Stored α] (field : Field)
    (hwidth : Stored.width α = field.width) (hne : field ≠ .table) (h : map.HasPart field.part) :
    (map.blank.read (map.fieldRegion field).start : α)
      = Memory.zeroed.read (map.fieldRegion field).start := by
  have hpart : field.part ≠ .table := by
    cases field <;> simp [Field.part]
  have hdisjoint (htable : map.table ≠ 0) :
      (map.partRegion .table).Disjoint (map.fieldRegion field) :=
    (hapart.part_disjoint hpart.symm htable h).mono_right (map.fieldRegion_subset field)
  have hblank : (map.blank.read (map.fieldRegion field).start : α)
      = (map.writeField .table map.table .zeroed).read (map.fieldRegion field).start := by
    refine Memory.EqOn.read_eq ?_
    rw [extent_field map hwidth]
    exact eqOn_blank hdisjoint
  exact hblank.trans (read_writeField_of_ne hapart rfl hwidth hne.symm trivial h)

theorem contents_blank (hapart : map.Apart) :
    map.contents map.blank = ⟨0, 0, fun _ => 0, fun _ => 0⟩ := by
  have hpointer (address : Address) : (Memory.zeroed.read address : Address) = 0 :=
    (Memory.read_zeroed address).trans (by decide)
  have hnumber (address : Address) : (Memory.zeroed.read address : Int32) = 0 :=
    (Memory.read_zeroed address).trans (by decide)
  apply Contents.ext
  · exact (read_blank hapart .count rfl (by decide) trivial).trans (hnumber _)
  · exact (read_blank hapart .master rfl (by decide) trivial).trans (hnumber _)
  · funext index
    simp only [contents]
    split
    · next hitem =>
        exact (read_blank hapart (.object index) rfl (by simp) hitem).trans (hpointer _)
    · rfl
  · funext index
    simp only [contents]
    split
    · next hitem =>
        exact (read_blank hapart (.serial index) rfl (by simp) hitem).trans (hnumber _)
    · rfl

/-- Bumps the master counter and installs its new value as the serial of a slot. -/
def assign (map : ChunkMap) (index : Nat) (memory : Memory) : Memory :=
  let fresh := masterSerial memory map.header + 1
  map.writeField (.serial index) fresh (map.writeField .master fresh memory)

theorem contents_assign (hapart : map.Apart) (hitem : map.HasItem index) :
    map.contents (map.assign index memory) = (map.contents memory).assign index := by
  rw [assign, contents_writeSerial hapart hitem, contents_writeMaster hapart]
  rfl

theorem Intact.assign (hintact : map.Intact memory) (hapart : map.Apart)
    (hitem : map.HasItem index) : map.Intact (map.assign index memory) := by
  refine Intact.writeField ?_ hapart rfl hitem (by simp)
  exact hintact.writeField hapart rfl trivial (by decide)

/-- The serial of a slot is the one it has, or the next one if it has none; a slot without an item
is out of range. -/
theorem allocateSerial_eq (hapart : map.Apart) (hintact : map.Intact memory)
    (h : index < map.capacity) :
    map.registry.allocateSerial memory index =
      if map.HasItem index then
        if (map.contents memory).serial index = 0 then
          .ok ((map.contents memory).master + 1, map.assign index memory)
        else .ok ((map.contents memory).serial index, memory)
      else .error (.outOfRange index (map.registry.size memory)) := by
  have hitemAddress : itemAddress memory map.registry.header index
      = if map.HasItem index then map.item index else 0 := itemAddress_eq hintact h
  rw [allocateSerial, hitemAddress]
  by_cases hitem : map.HasItem index
  · have hexisting : memory.read (memberAddress .registryItem .serialNumber (map.item index))
        = (map.contents memory).serial index := by
      simp only [contents, if_pos hitem]
      rfl
    -- The second look at the slot, after the counter is bumped, finds what the first one found.
    have hcurrent : (map.writeField .master (masterSerial memory map.header + 1) memory).read
        (memberAddress .registryItem .serialNumber (map.item index))
        = (map.contents memory).serial index := by
      rw [← hexisting]
      have hread (value : Int32) :
          ((map.writeField .master value memory).read (map.fieldRegion (.serial index)).start : Int32)
            = memory.read (map.fieldRegion (.serial index)).start :=
        read_writeField_of_ne hapart rfl rfl (by simp) trivial hitem
      exact hread _
    simp only [if_pos hitem, item_ne_zero hapart hitem, if_false, hexisting]
    by_cases hserial : (map.contents memory).serial index = 0
    · simp only [hserial, bne_self_eq_false, Bool.false_eq_true, if_false, if_true]
      rw [hserial] at hcurrent
      exact if_pos (beq_iff_eq.mpr hcurrent)
    · simp only [hserial, if_false]
      exact if_pos (bne_iff_ne.mpr hserial)
  · simp only [if_neg hitem, if_true]

def internalIndex (memory : Memory) (object : Address) : Int32 :=
  memory.read (Entity.object.address .oak .internalIndex object)

/-- A reference to an object is the slot that the object says it is in with the serial of this slot,
which must be live and have an item. -/
theorem reference_eq (hapart : map.Apart) (hintact : map.Intact memory)
    (hsize : map.registry.size memory ≤ map.capacity) (object : Address) :
    map.registry.reference memory (some object) =
      let index := internalIndex memory object
      let slot := index.toInt.toNat
      if index < 0 then .error (.outOfRange (UInt64.size - 1) (map.registry.size memory))
      else if map.registry.size memory ≤ slot then
        .error (.outOfRange slot (map.registry.size memory))
      else if map.HasItem slot then
        if (map.contents memory).serial slot = 0 then
          .ok (⟨index, (map.contents memory).master + 1⟩, map.assign slot memory)
        else .ok (⟨index, (map.contents memory).serial slot⟩, memory)
      else .error (.outOfRange slot (map.registry.size memory)) := by
  have hflavour : map.registry.flavour = .oak := rfl
  have hindex : memory.read (Entity.object.address .oak .internalIndex object)
      = internalIndex memory object := rfl
  simp only [Registry.reference, hflavour, hindex]
  refine if_congr Iff.rfl rfl ?_
  by_cases hlive : map.registry.size memory ≤ (internalIndex memory object).toInt.toNat
  · rw [if_pos hlive, if_pos hlive]
  · have hlt := Nat.lt_of_lt_of_le (Nat.lt_of_not_le hlive) hsize
    rw [if_neg hlive, if_neg hlive, allocateSerial_eq hapart hintact hlt]
    split
    · split <;> rfl
    · rfl

/-- A successful reference names a live slot with an item, and has its serial, which is the next one
if the slot had none. -/
theorem reference_ok (hapart : map.Apart) (hintact : map.Intact memory)
    (hsize : map.registry.size memory ≤ map.capacity) {object : Address} {weak : WeakReference}
    {memory' : Memory} (h : map.registry.reference memory (some object) = .ok (weak, memory')) :
    weak.index = internalIndex memory object ∧ 0 ≤ weak.index ∧
      weak.index.toInt.toNat < map.registry.size memory ∧ map.HasItem weak.index.toInt.toNat ∧
      ((map.contents memory).serial weak.index.toInt.toNat = 0 ∧
          weak.serial = (map.contents memory).master + 1 ∧
          memory' = map.assign weak.index.toInt.toNat memory ∨
        (map.contents memory).serial weak.index.toInt.toNat ≠ 0 ∧
          weak.serial = (map.contents memory).serial weak.index.toInt.toNat ∧
          memory' = memory) := by
  rw [reference_eq hapart hintact hsize] at h
  dsimp only at h
  split at h
  · cases h
  next hnonneg =>
  split at h
  · cases h
  next hlive =>
  split at h
  next hitem =>
    split at h
    next hserial =>
      cases h
      exact ⟨rfl, Int32.not_lt.mp hnonneg, Nat.lt_of_not_le hlive, hitem,
        .inl ⟨hserial, rfl, rfl⟩⟩
    next hserial =>
      cases h
      exact ⟨rfl, Int32.not_lt.mp hnonneg, Nat.lt_of_not_le hlive, hitem,
        .inr ⟨hserial, rfl, rfl⟩⟩
  · cases h

end ChunkMap

end HostBridge
