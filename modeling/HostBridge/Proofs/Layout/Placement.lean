import HostBridge.Layout.Record
import HostBridge.Proofs.Layout.Cells
import Mathlib.Data.List.Pairwise

namespace HostBridge

variable {Label : Type}

theorem le_roundUp {offset unit : Nat} (hunit : 0 < unit) : offset ≤ roundUp offset unit := by
  have hdiv := Nat.div_add_mod (offset + unit - 1) unit
  have hmod := Nat.mod_lt (offset + unit - 1) hunit
  rw [roundUp, Nat.mul_comm]
  omega

theorem Cell.alignment_pos (cell : Cell) : 0 < cell.alignment := by
  cases cell <;> simp [Cell.alignment]

def Placed.region (placed : Placed Label) (start : Address) : Region :=
  ⟨placed.address start, placed.cell.size⟩

namespace Record

variable {record : Record Label} {placed other : Placed Label} {packing : Nat}
  {memory memory' : Memory} {start : Address} {datum : Datum}

def region (record : Record Label) (start : Address) : Region :=
  ⟨start, record.size⟩

/-- Whether a record's members lie one behind the other and inside the record. -/
structure InOrder (record : Record Label) : Prop where
  ends_le_next : record.members.Pairwise fun earlier later =>
    earlier.offset + earlier.cell.size ≤ later.offset
  ends_le_size : ∀ placed ∈ record.members, placed.offset + placed.cell.size ≤ record.size
  alignment_pos : 0 < record.alignment

theorem inOrder_empty : (empty : Record Label).InOrder where
  ends_le_next := .nil
  ends_le_size := nofun
  alignment_pos := Nat.one_pos

theorem size_le_roundUp (record : Record Label) (hpacking : 0 < packing) (cell : Cell) :
    record.size ≤ roundUp record.size (min packing cell.alignment) :=
  le_roundUp (Nat.lt_min.mpr ⟨hpacking, cell.alignment_pos⟩)

theorem InOrder.push (h : record.InOrder) (hpacking : 0 < packing) (member : Member Label) :
    (record.push packing member).InOrder where
  ends_le_next := by
    refine List.pairwise_append.mpr ⟨h.ends_le_next, List.pairwise_singleton _ _, ?_⟩
    intro placed hplaced last hlast
    rw [List.mem_singleton.mp hlast]
    exact Nat.le_trans (h.ends_le_size placed hplaced)
      (record.size_le_roundUp hpacking member.cell)
  ends_le_size := by
    intro placed hplaced
    rcases List.mem_append.mp hplaced with hplaced | hplaced
    · exact Nat.le_trans (h.ends_le_size placed hplaced)
        (Nat.le_trans (record.size_le_roundUp hpacking member.cell) (Nat.le_add_right _ _))
    · rw [List.mem_singleton.mp hplaced]
      exact Nat.le_refl _
  alignment_pos := Nat.lt_of_lt_of_le h.alignment_pos (Nat.le_max_left _ _)

theorem InOrder.close (h : record.InOrder) : record.close.InOrder where
  ends_le_next := h.ends_le_next
  ends_le_size placed hplaced :=
    Nat.le_trans (h.ends_le_size placed hplaced) (le_roundUp h.alignment_pos)
  alignment_pos := h.alignment_pos

theorem InOrder.extend (h : record.InOrder) (hpacking : 0 < packing)
    (members : List (Member Label)) : (record.extend packing members).InOrder := by
  refine InOrder.close ?_
  induction members generalizing record with
  | nil => exact h
  | cons member members ih => exact ih (h.push hpacking member)

theorem members_prefix_extend (members : List (Member Label)) :
    record.members <+: (record.extend packing members).members := by
  show record.members <+: (members.foldl (push packing) record).members
  induction members generalizing record with
  | nil => exact List.prefix_refl _
  | cons member members ih =>
      have hpush : record.members <+: (record.push packing member).members :=
        List.prefix_append _ _
      exact hpush.trans ih

theorem region_eq_part (record : Record Label) (placed : Placed Label) (start : Address) :
    placed.region start = (record.region start).part placed.offset placed.cell.size :=
  rfl

theorem InOrder.region_subset (h : record.InOrder) (hplaced : placed ∈ record.members) :
    placed.region start ⊆ record.region start := by
  rw [region_eq_part record]
  exact Region.part_subset (h.ends_le_size placed hplaced)

theorem InOrder.region_disjoint (h : record.InOrder) (hspace : record.size ≤ 2 ^ 64)
    (hplaced : placed ∈ record.members) (hother : other ∈ record.members) (hne : placed ≠ other) :
    (placed.region start).Disjoint (other.region start) := by
  -- Either member may come first, so what holds of earlier and later ones is made symmetric.
  have hsymm : Std.Symm fun placed other : Placed Label =>
      (placed.region start).Disjoint (other.region start) := ⟨fun _ _ => Region.Disjoint.symm⟩
  have hapart : record.members.Pairwise fun placed other =>
      (placed.region start).Disjoint (other.region start) := by
    refine h.ends_le_next.imp_of_mem fun _ hlater hbefore => ?_
    rw [region_eq_part record, region_eq_part record]
    exact Region.part_disjoint hbefore (Nat.le_trans (h.ends_le_size _ hlater) hspace)
  exact hapart.forall hplaced hother hne

variable [BEq Label] {label otherLabel : Label}

theorem mem_of_find? (hfind : record.find? label = some placed) : placed ∈ record.members :=
  List.mem_of_find?_eq_some hfind

theorem label_of_find? [LawfulBEq Label] (hfind : record.find? label = some placed) :
    placed.label = some label := by
  have hlabel := List.find?_some hfind
  exact beq_iff_eq.mp hlabel

theorem offset_of_find? (hfind : record.find? label = some placed) :
    record.offset label = placed.offset := by
  rw [offset, hfind, Option.map_some, Option.getD_some]

theorem get?_of_find? (hfind : record.find? label = some placed) :
    record.get? label memory start =
      some (placed.cell.decode (memory.bytesAt (placed.address start) placed.cell.size)) := by
  rw [get?, hfind, Option.map_some, Cell.load_eq_decode]

section Setting

variable (hfind : record.find? label = some placed) (hexact : placed.cell ≠ .truth)

include hfind hexact

theorem set?_eq_some_iff :
    record.set? label datum memory start = some memory' ↔
      ∃ image, (image.length = placed.cell.size ∧ placed.cell.decode image = datum) ∧
        memory' = memory.store (placed.address start) image := by
  simp only [set?, hfind, Option.bind_eq_bind, Option.bind_some, Option.bind_eq_some_iff,
    Cell.image?_eq_some_iff hexact, Option.pure_def, Option.some.injEq, eq_comm (a := memory')]

variable (hset : record.set? label datum memory start = some memory')

include hset

theorem get?_self_of_set? (hsize : placed.cell.size ≤ UInt64.size) :
    record.get? label memory' start = some datum := by
  obtain ⟨image, ⟨hlength, hdecode⟩, rfl⟩ := (set?_eq_some_iff hfind hexact).mp hset
  rw [get?_of_find? hfind, ← hlength, Memory.bytesAt_store_self _ _ _ (hlength ▸ hsize), hdecode]

theorem byte_of_set? {address : Address} (houtside : address ∉ placed.region start) :
    memory'.byte address = memory.byte address := by
  obtain ⟨image, ⟨hlength, -⟩, rfl⟩ := (set?_eq_some_iff hfind hexact).mp hset
  refine Memory.byte_store_of_le (Nat.le_of_not_lt fun hlt => houtside ?_)
  rw [hlength] at hlt
  exact hlt

theorem InOrder.load_of_set? (h : record.InOrder) (hspace : record.size ≤ 2 ^ 64)
    (hother : other ∈ record.members) (hne : other ≠ placed) :
    other.cell.load memory' (other.address start) =
      other.cell.load memory (other.address start) := by
  have hapart : (placed.region start).Disjoint (other.region start) :=
    h.region_disjoint hspace (mem_of_find? hfind) hother hne.symm
  refine Cell.load_congr fun address hmem => ?_
  exact byte_of_set? hfind hexact hset fun hplaced => hapart address hplaced hmem

theorem InOrder.get?_of_set? [LawfulBEq Label] (h : record.InOrder)
    (hspace : record.size ≤ 2 ^ 64) (hne : otherLabel ≠ label) :
    record.get? otherLabel memory' start = record.get? otherLabel memory start := by
  refine Option.map_congr fun other hother => ?_
  refine h.load_of_set? hfind hexact hset hspace (mem_of_find? hother) fun hsame => hne ?_
  have hlabel := label_of_find? hother
  rw [hsame, label_of_find? hfind] at hlabel
  exact (Option.some.inj hlabel).symm

theorem InOrder.byte_of_set? (h : record.InOrder) {address : Address}
    (houtside : address ∉ record.region start) : memory'.byte address = memory.byte address :=
  Record.byte_of_set? hfind hexact hset fun hmem =>
    houtside (h.region_subset (mem_of_find? hfind) address hmem)

end Setting

end Record

end HostBridge
