import HostBridge.Memory.Stored
import Mathlib.Algebra.Group.Nat.Defs

/-!
# Regions of memory

A region is a run of addresses, which may wrap around at the end of the address space. What is read
from a region depends on the bytes in it alone, so a write leaves everything as it was that lies in
regions disjoint from its own.
-/

namespace HostBridge

structure Region where
  start : Address
  size : Nat
  deriving DecidableEq, Repr

namespace Region

instance : Membership Address Region where
  mem region address := (address - region.start).toNat < region.size

instance (address : Address) (region : Region) : Decidable (address ∈ region) :=
  inferInstanceAs (Decidable ((address - region.start).toNat < region.size))

instance : HasSubset Region where
  Subset inner outer := ∀ address, address ∈ inner → address ∈ outer

def Disjoint (left right : Region) : Prop :=
  ∀ address, address ∈ left → address ∉ right

def part (region : Region) (offset size : Nat) : Region :=
  ⟨region.start + UInt64.ofNat offset, size⟩

variable {region inner outer left right : Region} {address : Address}

theorem mem_iff : address ∈ region ↔ (address - region.start).toNat < region.size :=
  Iff.rfl

theorem Disjoint.symm (h : left.Disjoint right) : right.Disjoint left :=
  fun address hright hleft => h address hleft hright

theorem Disjoint.mono_left (h : outer.Disjoint right) (hinner : inner ⊆ outer) :
    inner.Disjoint right :=
  fun address hmem => h address (hinner address hmem)

theorem Disjoint.mono_right (h : left.Disjoint outer) (hinner : inner ⊆ outer) :
    left.Disjoint inner :=
  fun address hleft hmem => h address hleft (hinner address hmem)

theorem start_add_mem {distance : Nat} (h : distance < region.size) :
    region.start + UInt64.ofNat distance ∈ region := by
  rw [mem_iff, UInt64.add_comm, UInt64.add_sub_cancel, UInt64.toNat_ofNat']
  exact Nat.lt_of_le_of_lt (Nat.mod_le _ _) h

theorem Disjoint.size_lt (h : left.Disjoint right) (hleft : 0 < left.size) :
    right.size < 2 ^ 64 := by
  refine Nat.lt_of_not_le fun hle => h left.start ?_ ?_
  · rwa [mem_iff, UInt64.sub_self]
  · exact Nat.lt_of_lt_of_le (UInt64.toNat_lt _) hle

/-- How far an address is from the start of a region, given how far it is from the start of a part
of the region. -/
theorem sub_start_eq (region : Region) (offset size : Nat) (address : Address) :
    (address - region.start).toNat =
      ((address - (region.part offset size).start).toNat + offset) % 2 ^ 64 := by
  have hsplit : address - region.start =
      address - (region.part offset size).start + UInt64.ofNat offset := by
    simp only [part]
    grind
  rw [hsplit, UInt64.toNat_add, UInt64.toNat_ofNat', Nat.add_mod_mod]

theorem part_subset {offset size : Nat} (hend : offset + size ≤ region.size) :
    region.part offset size ⊆ region := by
  intro address hmem
  rw [mem_iff] at hmem ⊢
  rw [sub_start_eq region offset size]
  refine Nat.lt_of_le_of_lt (Nat.mod_le _ _) ?_
  simp only [part] at hmem ⊢
  omega

theorem part_disjoint {offset size offset' size' : Nat} (hbefore : offset + size ≤ offset')
    (hspace : offset' + size' ≤ 2 ^ 64) :
    (region.part offset size).Disjoint (region.part offset' size') := by
  intro address hleft hright
  rw [mem_iff] at hleft hright
  have hfirst := sub_start_eq region offset size address
  have hsecond := sub_start_eq region offset' size' address
  simp only [part] at hleft hright hfirst hsecond
  rw [Nat.mod_eq_of_lt (by omega)] at hfirst hsecond
  omega

theorem disjoint_of_end_le (hbefore : left.start.toNat + left.size ≤ right.start.toNat)
    (hspace : right.start.toNat + right.size ≤ 2 ^ 64) : left.Disjoint right := by
  have hpart (region : Region) : region = (⟨0, 0⟩ : Region).part region.start.toNat region.size := by
    simp [part]
  rw [hpart left, hpart right]
  exact part_disjoint hbefore hspace

end Region

def Stored.extent (α : Type) [Stored α] (address : Address) : Region :=
  ⟨address, Stored.width α⟩

namespace Memory

variable {memory memory' : Memory} {α β : Type} [Stored α] [Stored β]

def EqOn (region : Region) (memory memory' : Memory) : Prop :=
  ∀ address ∈ region, memory.byte address = memory'.byte address

theorem EqOn.symm {region : Region} (h : EqOn region memory memory') :
    EqOn region memory' memory :=
  fun address hmem => (h address hmem).symm

theorem EqOn.mono {inner outer : Region} (h : EqOn outer memory memory') (hinner : inner ⊆ outer) :
    EqOn inner memory memory' :=
  fun address hmem => h address (hinner address hmem)

theorem EqOn.bytesAt_eq {region : Region} (h : EqOn region memory memory') :
    memory.bytesAt region.start region.size = memory'.bytesAt region.start region.size := by
  simp only [bytesAt, List.map_inj_left, List.mem_range]
  intro i hi
  exact h _ (Region.start_add_mem hi)

theorem EqOn.read_eq {address : Address} (h : EqOn (Stored.extent α address) memory memory') :
    (memory.read address : α) = memory'.read address :=
  congrArg Stored.decode h.bytesAt_eq

theorem EqOn.read_part {region : Region} {offset : Nat} (h : EqOn region memory memory')
    (hend : offset + Stored.width α ≤ region.size) :
    (memory.read (region.start + UInt64.ofNat offset) : α)
      = memory'.read (region.start + UInt64.ofNat offset) :=
  (h.mono (Region.part_subset hend)).read_eq

theorem eqOn_store {region : Region} {start : Address} {bytes : List UInt8}
    (h : Region.Disjoint ⟨start, bytes.length⟩ region) :
    EqOn region (memory.store start bytes) memory := by
  intro address hmem
  refine byte_store_of_le (Nat.le_of_not_lt fun hlt => ?_)
  exact h address hlt hmem

theorem byte_write_of_not_mem [Stored.Exact α] {place address : Address} {value : α}
    (h : address ∉ Stored.extent α place) :
    (memory.write place value).byte address = memory.byte address := by
  refine byte_store_of_le (Nat.le_of_not_lt ?_)
  rw [Stored.Exact.length_encode]
  exact h

theorem eqOn_write [Stored.Exact α] {region : Region} {address : Address} {value : α}
    (h : (Stored.extent α address).Disjoint region) :
    EqOn region (memory.write address value) memory := by
  refine eqOn_store ?_
  rw [Stored.Exact.length_encode]
  exact h

theorem read_write_of_disjoint [Stored.Exact α] {target address : Address} {value : α}
    (h : (Stored.extent α target).Disjoint (Stored.extent β address)) :
    ((memory.write target value).read address : β) = memory.read address :=
  (eqOn_write h).read_eq

theorem read_write_self [Stored.Exact α] {address : Address} {value : α}
    (hwidth : Stored.width α ≤ UInt64.size) : (memory.write address value).read address = value := by
  have hlength := Stored.Exact.length_encode value
  rw [read, write, ← hlength, bytesAt_store_self _ _ _ (hlength ▸ hwidth)]
  exact Stored.Exact.decode_encode value

theorem bytesAt_add (memory : Memory) (start : Address) (count count' : Nat) :
    memory.bytesAt start (count + count') =
      memory.bytesAt start count ++ memory.bytesAt (start + UInt64.ofNat count) count' := by
  simp only [bytesAt, List.range_add, List.map_append, List.map_map]
  congr 1
  refine List.map_congr_left fun i _ => ?_
  simp [UInt64.add_assoc]

theorem read_zeroed (address : Address) :
    (zeroed.read address : α) = Stored.decode (List.replicate (Stored.width α) 0) := by
  have hbytes : zeroed.bytesAt address (Stored.width α) = List.replicate (Stored.width α) 0 := by
    rw [bytesAt, zeroed, List.map_const', List.length_range]
  rw [read, hbytes]

theorem read_pair (memory : Memory) (address : Address) :
    (memory.read address : α × β)
      = (memory.read address, memory.read (address + UInt64.ofNat (Stored.width α))) := by
  have hlength := memory.length_bytesAt address (Stored.width α)
  have hwidth : Stored.width (α × β) = Stored.width α + Stored.width β := rfl
  simp only [read, Stored.decode, hwidth, bytesAt_add, List.take_left' hlength,
    List.drop_left' hlength]

/-- Whether the images of values lie in memory one after the other. -/
def Holds (memory : Memory) (start : Address) (values : List α) : Prop :=
  memory.bytesAt start (Stored.width α * values.length) = values.flatMap Stored.encode

instance (start : Address) (values : List α) : Decidable (memory.Holds start values) :=
  inferInstanceAs (Decidable (_ = _))

theorem holds_cons [Stored.Exact α] {start : Address} {value : α} {values : List α} :
    memory.Holds start (value :: values) ↔
      memory.read start = value ∧
        memory.Holds (start + UInt64.ofNat (Stored.width α)) values := by
  have hlength : Stored.width α * (value :: values).length =
      Stored.width α + Stored.width α * values.length := by
    rw [List.length_cons, Nat.mul_add, Nat.mul_one, Nat.add_comm]
  rw [Holds, hlength, bytesAt_add, List.flatMap_cons]
  constructor
  · intro h
    obtain ⟨hvalue, hvalues⟩ :=
      List.append_inj h (by rw [length_bytesAt, Stored.Exact.length_encode])
    exact ⟨by rw [read, hvalue, Stored.Exact.decode_encode], hvalues⟩
  · rintro ⟨hvalue, hvalues⟩
    rw [← hvalue, read, Stored.Exact.encode_decode _ (length_bytesAt ..), hvalues]

theorem Holds.read_eq [Stored.Exact α] {start : Address} {values : List α}
    (h : memory.Holds start values) {index : Nat} (hindex : index < values.length) :
    memory.read (start + UInt64.ofNat (Stored.width α * index)) = values[index] := by
  induction values generalizing start index with
  | nil => exact absurd hindex (Nat.not_lt_zero _)
  | cons value values ih =>
      obtain ⟨hvalue, hvalues⟩ := holds_cons.mp h
      cases index with
      | zero => simpa using hvalue
      | succ index =>
          have hnext := ih hvalues (Nat.lt_of_succ_lt_succ hindex)
          rw [UInt64.add_assoc, ← UInt64.ofNat_add, Nat.add_comm, ← Nat.mul_succ] at hnext
          exact hnext

theorem Holds.map_read [Stored.Exact α] {start : Address} {values : List α}
    (h : memory.Holds start values) :
    ((List.range values.length).map fun index =>
      (memory.read (start + UInt64.ofNat (Stored.width α * index)) : α)) = values := by
  refine List.ext_getElem (by rw [List.length_map, List.length_range]) fun index _ hindex => ?_
  rw [List.getElem_map, List.getElem_range]
  exact h.read_eq hindex

theorem holds_map_read [Stored.Exact α] (memory : Memory) (start : Address) (count : Nat) :
    memory.Holds start ((List.range count).map fun index =>
      (memory.read (start + UInt64.ofNat (Stored.width α * index)) : α)) := by
  induction count generalizing start with
  | zero => rfl
  | succ count ih =>
      rw [List.range_succ_eq_map, List.map_cons, List.map_map, holds_cons]
      constructor
      · exact congrArg memory.read (UInt64.add_zero start).symm
      · have hnext := ih (start + UInt64.ofNat (Stored.width α))
        simp only [UInt64.add_assoc, ← UInt64.ofNat_add] at hnext
        simp only [Function.comp_def, Nat.mul_succ, Nat.add_comm _ (Stored.width α)]
        exact hnext

theorem length_flatMap_encode [Stored.Exact α] (values : List α) :
    (values.flatMap Stored.encode).length = Stored.width α * values.length := by
  induction values with
  | nil => rfl
  | cons value values ih =>
      rw [List.flatMap_cons, List.length_append, Stored.Exact.length_encode, ih, List.length_cons,
        Nat.mul_succ, Nat.add_comm]

theorem holds_store [Stored.Exact α] {start : Address} {values : List α}
    (hsize : Stored.width α * values.length ≤ UInt64.size) :
    (memory.store start (values.flatMap Stored.encode)).Holds start values := by
  rw [← length_flatMap_encode] at hsize
  rw [Holds, ← length_flatMap_encode]
  exact bytesAt_store_self memory start _ hsize

theorem Holds.congr {start : Address} {values : List α} (h : memory.Holds start values)
    (heq : EqOn ⟨start, Stored.width α * values.length⟩ memory memory') :
    memory'.Holds start values :=
  heq.bytesAt_eq.symm.trans h

end Memory

/-- What is given first counts only for a key that is not given a value again. -/
theorem getD_lookup_reverse_cons {ι α : Type} [DecidableEq ι] (key given : ι) (value default : α)
    (rest : List (ι × α)) :
    (((given, value) :: rest).reverse.lookup key).getD default
      = (rest.reverse.lookup key).getD (if key = given then value else default) := by
  rw [List.reverse_cons, List.lookup_append, List.lookup_cons, List.lookup_nil]
  cases rest.reverse.lookup key with
  | some last => rfl
  | none =>
      by_cases heq : key = given
      · rw [if_pos heq, beq_iff_eq.mpr heq]
        rfl
      · rw [if_neg heq, beq_eq_false_iff_ne.mpr heq]
        rfl

end HostBridge
