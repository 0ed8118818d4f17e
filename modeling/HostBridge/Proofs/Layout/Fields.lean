import HostBridge.Layout.Access
import HostBridge.Layout.OffsetTable
import HostBridge.Proofs.Layout.Placement

namespace HostBridge

namespace Entity

variable {flavour : Flavour} {entity base : Entity} {label : Label} {field : Placed Label}

theorem packing_pos (flavour : Flavour) (entity : Entity) : 0 < packing flavour entity := by
  unfold packing
  split <;> decide

theorem layout_inOrder (entity : Entity) (flavour : Flavour) :
    (entity.layout flavour).InOrder := by
  have hbases (bases : List Entity) (record : Record Label) (h : record.InOrder) :
      (bases.foldl (fun record base => record.extend (packing flavour base) (members flavour base))
        record).InOrder := by
    induction bases generalizing record with
    | nil => exact h
    | cons base bases ih => exact ih _ (h.extend (packing_pos flavour base) _)
  exact hbases entity.lineage Record.empty Record.inOrder_empty

theorem layout_size_lt (entity : Entity) (flavour : Flavour) :
    (entity.layout flavour).size < UInt16.size := by
  have hall : ∀ entity ∈ all, (entity.layout flavour).size < UInt16.size := by
    cases flavour <;> decide +kernel
  exact hall entity (mem_all entity)

theorem lineage_prefix_of_isA (hbase : entity.isA base = true) : base.lineage <+: entity.lineage := by
  have hall : ∀ entity ∈ all, ∀ base ∈ entity.lineage, base.lineage <+: entity.lineage := by
    decide +kernel
  exact hall entity (mem_all entity) base (List.contains_iff_mem.mp hbase)

theorem members_prefix_layout (hbase : entity.isA base = true) :
    (base.layout flavour).members <+: (entity.layout flavour).members := by
  obtain ⟨derived, hderived⟩ := lineage_prefix_of_isA hbase
  rw [layout, layout, ← hderived, List.foldl_append]
  -- From here on the layout of the base is some record, which the further members only extend.
  generalize base.lineage.foldl _ Record.empty = record
  clear hderived
  induction derived generalizing record with
  | nil => exact List.prefix_refl _
  | cons next derived ih => exact (Record.members_prefix_extend _).trans (ih _)

theorem find?_of_isA (hbase : entity.isA base = true)
    (hfind : base.find? flavour label = some field) : entity.find? flavour label = some field :=
  (members_prefix_layout hbase).find?_eq_some hfind

theorem upcast?_eq_some {start seen : Address} (h : entity.upcast? base start = some seen) :
    seen = start ∧ entity.isA base = true := by
  have hall : ∀ entity ∈ all, ∀ base ∈ entity.upcasts, entity.isA base = true := by
    decide +kernel
  rw [upcast?, Option.ite_none_right_eq_some] at h
  obtain ⟨hupcast, hseen⟩ := h
  exact ⟨(Option.some.inj hseen).symm,
    hall entity (mem_all entity) base (List.contains_iff_mem.mp hupcast)⟩

/-- The accessors of a label load and store the bytes of one cell, so many bytes after the start of
the entity, and leave everything else as it is. -/
structure ExactAccess (entity : Entity) (flavour : Flavour) (label : Label) (cell : Cell)
    (offset : Nat) : Prop where
  address_eq (start : Address) :
    entity.address flavour label start = start + UInt64.ofNat offset
  get?_eq (memory : Memory) (start : Address) :
    entity.get? flavour label memory start =
      some (cell.decode (memory.bytesAt (start + UInt64.ofNat offset) cell.size))
  /-- No other member shares a byte with the cell. -/
  disjoint_other (start : Address) {other : Placed Label}
    (hother : other ∈ (entity.layout flavour).members) (hne : other ≠ ⟨some label, cell, offset⟩) :
    Region.Disjoint ⟨start + UInt64.ofNat offset, cell.size⟩ (other.region start)
  /-- A datum can be set if bytes of the cell's width stand for it, and setting it stores these. -/
  set?_eq_some_iff (memory memory' : Memory) (start : Address) (datum : Datum) :
    entity.set? flavour label datum memory start = some memory' ↔
      ∃ image, (image.length = cell.size ∧ cell.decode image = datum) ∧
        memory' = memory.store (start + UInt64.ofNat offset) image
  get?_self {memory memory' : Memory} {start : Address} {datum : Datum}
    (hset : entity.set? flavour label datum memory start = some memory') :
    entity.get? flavour label memory' start = some datum
  get?_other {memory memory' : Memory} {start : Address} {datum : Datum}
    (hset : entity.set? flavour label datum memory start = some memory') {other : Label}
    (hne : other ≠ label) :
    entity.get? flavour other memory' start = entity.get? flavour other memory start
  /-- Members that the host keeps to itself are left alone, too. -/
  load_other {memory memory' : Memory} {start : Address} {datum : Datum}
    (hset : entity.set? flavour label datum memory start = some memory') {other : Placed Label}
    (hother : other ∈ (entity.layout flavour).members) (hne : other ≠ ⟨some label, cell, offset⟩) :
    other.cell.load memory' (other.address start) = other.cell.load memory (other.address start)
  byte_outside {memory memory' : Memory} {start : Address} {datum : Datum}
    (hset : entity.set? flavour label datum memory start = some memory') {address : Address}
    (houtside : address ∉ (entity.layout flavour).region start) :
    memory'.byte address = memory.byte address

/-- The accessors of a label are exact wherever its member is found, if it can be set at all. -/
theorem exactAccess_of_find? (hfind : entity.find? flavour label = some field)
    (hexact : field.cell ≠ .truth) (hwritable : isReadOnly label = false) :
    entity.ExactAccess flavour label field.cell field.offset := by
  have hinOrder := entity.layout_inOrder flavour
  have hspace : (entity.layout flavour).size ≤ 2 ^ 64 :=
    Nat.le_trans (Nat.le_of_lt (entity.layout_size_lt flavour)) (by decide)
  have hsize : field.cell.size ≤ UInt64.size :=
    Nat.le_trans (Nat.le_add_left _ _)
      (Nat.le_trans (hinOrder.ends_le_size field (Record.mem_of_find? hfind)) hspace)
  have hfield : field = ⟨some label, field.cell, field.offset⟩ := by
    rw [← Record.label_of_find? hfind]
  have hset {memory memory' : Memory} {start : Address} {datum : Datum} :
      entity.set? flavour label datum memory start = some memory' ↔
        (entity.layout flavour).set? label datum memory start = some memory' := by
    rw [set?, hwritable, if_neg Bool.false_ne_true]
  exact
    { address_eq := fun start => by
        rw [address, Record.offset_of_find? hfind]
      get?_eq := fun memory start => Record.get?_of_find? hfind
      disjoint_other := fun start _ hother hne =>
        hinOrder.region_disjoint hspace (Record.mem_of_find? hfind) hother (hfield ▸ hne.symm)
      set?_eq_some_iff := fun memory memory' start datum =>
        hset.trans (Record.set?_eq_some_iff hfind hexact)
      get?_self := fun h => Record.get?_self_of_set? hfind hexact (hset.mp h) hsize
      get?_other := fun h _ hne => hinOrder.get?_of_set? hfind hexact (hset.mp h) hspace hne
      load_other := fun h _ hother hne =>
        hinOrder.load_of_set? hfind hexact (hset.mp h) hspace hother (hfield ▸ hne)
      byte_outside := fun h _ houtside =>
        hinOrder.byte_of_set? hfind hexact (hset.mp h) houtside }

/-- Whether the offset table lists a member of an entity with an offset. -/
def Listed (flavour : Flavour) (owner : Entity) (label : Label) (offset : UInt16) : Prop :=
  ∃ entries, (owner, entries) ∈ OffsetTable.ofFlavour flavour ∧ (label, offset) ∈ entries

theorem listed_iff {owner : Entity} {offset : UInt16} :
    Listed flavour owner label offset ↔
      ∃ labels, (owner, labels) ∈ OffsetTable.groups ∧ label ∈ labels ∧
        offset = UInt16.ofNat ((owner.layout flavour).offset label) := by
  constructor
  · rintro ⟨entries, hentries, hentry⟩
    obtain ⟨⟨_, labels⟩, hgroup, heq⟩ := List.mem_map.mp hentries
    cases heq
    obtain ⟨_, hlabel, heq⟩ := List.mem_map.mp hentry
    cases heq
    exact ⟨labels, hgroup, hlabel, rfl⟩
  · rintro ⟨labels, hgroup, hlabel, rfl⟩
    exact ⟨_, List.mem_map.mpr ⟨(owner, labels), hgroup, rfl⟩,
      List.mem_map.mpr ⟨label, hlabel, rfl⟩⟩

/-- Listed members are there, can be set, and lie where the table says. -/
theorem Listed.find? {owner : Entity} {offset : UInt16} (h : Listed flavour owner label offset) :
    ∃ field, owner.find? flavour label = some field ∧ field.offset = offset.toNat ∧
      field.cell ≠ .truth ∧ isReadOnly label = false := by
  have hall : ∀ group ∈ OffsetTable.groups, ∀ label ∈ group.2, isReadOnly label = false ∧
      ∃ field ∈ group.1.find? flavour label, field.cell ≠ .truth := by
    cases flavour <;> decide +kernel
  obtain ⟨labels, hgroup, hlabel, rfl⟩ := listed_iff.mp h
  obtain ⟨hwritable, field, hfind, hexact⟩ := hall (owner, labels) hgroup label hlabel
  have hend := (owner.layout_inOrder flavour).ends_le_size field (Record.mem_of_find? hfind)
  have hlt : field.offset < UInt16.size :=
    Nat.lt_of_le_of_lt (Nat.le_trans (Nat.le_add_right _ _) hend) (owner.layout_size_lt flavour)
  refine ⟨field, hfind, ?_, hexact, hwritable⟩
  rw [Record.offset_of_find? hfind, UInt16.toNat_ofNat', Nat.mod_eq_of_lt hlt]

/-- A member that the offset table lists is reached at its offset through the entity that lists it
and through every entity derived from that one, whose bases are all seen at one address. -/
theorem listed_access_exact (flavour : Flavour) (owner : Entity) (label : Label) (offset : UInt16)
    (hlisted : Listed flavour owner label offset) :
    ∃ cell, ⟨some label, cell, offset.toNat⟩ ∈ (owner.layout flavour).members ∧
      ∀ entity : Entity, entity.isA owner = true →
        entity.ExactAccess flavour label cell offset.toNat ∧
        ∀ base start seen, entity.upcast? base start = some seen →
          seen = start ∧ entity.isA base = true := by
  obtain ⟨field, hfind, hoffset, hexact, hwritable⟩ := hlisted.find?
  refine ⟨field.cell, ?_, fun entity howner => ⟨?_, fun base start seen => upcast?_eq_some⟩⟩
  · rw [← hoffset, ← Record.label_of_find? hfind]
    exact Record.mem_of_find? hfind
  · rw [← hoffset]
    exact exactAccess_of_find? (find?_of_isA howner hfind) hexact hwritable

/-- The size of a struct, reached through a function in a packed layout. -/
theorem property_size_of_function :
    Listed .willow .struct .propertySize 0x80 ∧ Entity.function.isA .struct = true ∧
      ∀ memory start,
        Entity.function.get? .willow .propertySize memory start =
          some (Cell.u16.decode (memory.bytesAt (start + 0x80) 2)) ∧
        Entity.function.set? .willow .propertySize (.number 0x1234) memory start =
          some (memory.store (start + 0x80) [0x34, 0x12]) := by
  have hlisted : Listed .willow .struct .propertySize 0x80 := by
    refine listed_iff.mpr ⟨[.superField, .children, .propertySize, .propertyLink,
      .scriptObjectReferences], ?_⟩
    decide +kernel
  have hfunction : Entity.function.isA .struct = true := by decide
  obtain ⟨cell, hcell, hderived⟩ := listed_access_exact .willow .struct .propertySize 0x80 hlisted
  have hu16 : ∀ field ∈ (Entity.struct.layout .willow).members,
      field.label = some .propertySize → field.cell = .u16 := by decide
  obtain rfl : cell = .u16 := hu16 _ hcell rfl
  have haccess := (hderived .function hfunction).1
  refine ⟨hlisted, hfunction, fun memory start => ⟨haccess.get?_eq memory start, ?_⟩⟩
  exact (haccess.set?_eq_some_iff ..).mpr ⟨[0x34, 0x12], by decide, rfl⟩

end Entity

end HostBridge
