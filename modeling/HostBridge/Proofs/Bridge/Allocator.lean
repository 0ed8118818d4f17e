import HostBridge.Host.Hook
import Mathlib.Data.Finset.Card

namespace HostBridge

/-- The blocks that somebody has once a block is handed out; null is no block. -/
def handOut (live : Finset Address) (block : Address) : Finset Address :=
  if block = 0 then live else insert block live

/-- The blocks that somebody has once a block is reallocated. A failure takes nothing back, but a
reallocation to no bytes that answers null is none. -/
def handOver (live : Finset Address) (block : Address) (length : Nat) (fresh : Address) :
    Finset Address :=
  if fresh = 0 ∧ length ≠ 0 then live else handOut (live.erase block) fresh

namespace HostCall

/-- Whether a call hands back nothing but null or a block that is live. -/
def Admits (live : Finset Address) : HostCall → Prop
  | .reallocate block _ => block = 0 ∨ block ∈ live
  | .release block => block = 0 ∨ block ∈ live
  | _ => True

/-- Whether an answer hands out nothing but null or a block that is not live. -/
def Grants (live : Finset Address) : (call : HostCall) → call.Answer → Prop
  | .allocate _, fresh => fresh = (0 : Address) ∨ fresh ∉ live
  | .reallocate block _, fresh => fresh = (0 : Address) ∨ fresh ∉ live.erase block
  | _, _ => True

def liveAfter (live : Finset Address) : (call : HostCall) → call.Answer → Finset Address
  | .allocate _, fresh => handOut live fresh
  | .reallocate block length, fresh => handOver live block length fresh
  | .release block, _ => live.erase block
  | _, _ => live

end HostCall

/-- A host whose allocator keeps its promises, with the blocks that it has handed out and not taken
back. Whatever else the host serves leaves these as they are. -/
structure Allocator {σ : Type} (hook : Hook σ) where
  live : σ → Finset Address
  contract (call : HostCall) (host : σ) (memory : Memory) (admitted : call.Admits (live host)) :
    call.Grants (live host) (hook.serve call host memory).1 ∧
      live (hook.serve call host memory).2.1
        = call.liveAfter (live host) (hook.serve call host memory).1

def strandedBy (stranded : Finset Address) (block : Address) (length : Nat) (fresh : Address) :
    Finset Address :=
  if fresh = 0 ∧ length ≠ 0 then if block = 0 then stranded else insert block stranded
  else stranded.erase block

/-- Whether a list has every live block but the stranded ones, each once. -/
structure Counted (blocks : List Address) (live stranded : Finset Address) : Prop where
  nodup : blocks.Nodup
  mem_iff : ∀ block, block ∈ blocks ↔ block ∈ live ∧ block ∉ stranded
  stranded_live : stranded ⊆ live
  null_not_live : 0 ∉ live

namespace Counted

variable {blocks : List Address} {live stranded : Finset Address} {block : Address}

theorem nil : Counted [] ∅ ∅ where
  nodup := List.nodup_nil
  mem_iff _ := by simp
  stranded_live := Finset.Subset.refl _
  null_not_live := Finset.notMem_empty _

theorem length_add_card (h : Counted blocks live stranded) :
    blocks.length + stranded.card = live.card := by
  have hblocks : blocks.toFinset = live \ stranded := by
    ext block
    rw [List.mem_toFinset, Finset.mem_sdiff]
    exact h.mem_iff block
  calc blocks.length + stranded.card
      = (live \ stranded).card + stranded.card := by
        rw [← List.toFinset_card_of_nodup h.nodup, hblocks]
    _ = live.card := Finset.card_sdiff_add_card_eq_card h.stranded_live

theorem add (h : Counted blocks live stranded) (hnull : block ≠ 0) (hfresh : block ∉ live) :
    Counted (blocks.insert block) (insert block live) stranded where
  nodup := h.nodup.insert
  mem_iff other := by
    have hstranded : block ∉ stranded := fun hmem => hfresh (h.stranded_live hmem)
    rw [List.mem_insert_iff, Finset.mem_insert, h.mem_iff]
    constructor
    · rintro (rfl | ⟨hlive, hother⟩)
      · exact ⟨.inl rfl, hstranded⟩
      · exact ⟨.inr hlive, hother⟩
    · rintro ⟨rfl | hlive, hother⟩
      · exact .inl rfl
      · exact .inr ⟨hlive, hother⟩
  stranded_live := h.stranded_live.trans (Finset.subset_insert block live)
  null_not_live hmem := by
    rcases Finset.mem_insert.mp hmem with heq | hlive
    · exact hnull heq.symm
    · exact h.null_not_live hlive

theorem erase (h : Counted blocks live stranded) (block : Address) :
    Counted (blocks.erase block) (live.erase block) (stranded.erase block) where
  nodup := h.nodup.erase block
  mem_iff other := by
    rw [h.nodup.mem_erase_iff, Finset.mem_erase, Finset.mem_erase, h.mem_iff]
    tauto
  stranded_live := Finset.erase_subset_erase block h.stranded_live
  null_not_live hmem := h.null_not_live (Finset.mem_of_mem_erase hmem)

theorem strand (h : Counted blocks live stranded) (hlive : block ∈ live) :
    Counted (blocks.erase block) live (insert block stranded) where
  nodup := h.nodup.erase block
  mem_iff other := by
    rw [h.nodup.mem_erase_iff, Finset.mem_insert, h.mem_iff]
    tauto
  stranded_live := Finset.insert_subset hlive h.stranded_live
  null_not_live := h.null_not_live

theorem handOut (h : Counted blocks live stranded) (hgrants : block = 0 ∨ block ∉ live) :
    Counted (if block = 0 then blocks else blocks.insert block) (handOut live block) stranded := by
  unfold HostBridge.handOut
  split
  · exact h
  next hnull =>
    have hfresh : block ∉ live := hgrants.resolve_left hnull
    exact h.add hnull hfresh

/-- Dropping the block that is reallocated, whatever the answer, strands it if it stays. -/
theorem handOver (h : Counted blocks live stranded) {length : Nat} {fresh : Address}
    (hadmits : block = 0 ∨ block ∈ live) (hgrants : fresh = 0 ∨ fresh ∉ live.erase block) :
    Counted (if fresh = 0 then blocks.erase block else (blocks.erase block).insert fresh)
      (handOver live block length fresh) (strandedBy stranded block length fresh) := by
  unfold HostBridge.handOver strandedBy
  by_cases hfailed : fresh = 0 ∧ length ≠ 0
  · rw [if_pos hfailed.1, if_pos hfailed, if_pos hfailed]
    by_cases hnull : block = 0
    · have hkept : 0 ∉ blocks := fun hmem => h.null_not_live ((h.mem_iff 0).mp hmem).1
      rw [if_pos hnull, hnull, List.erase_of_not_mem hkept]
      exact h
    · rw [if_neg hnull]
      exact h.strand (hadmits.resolve_left hnull)
  · rw [if_neg hfailed, if_neg hfailed]
    exact (h.erase block).handOut hgrants

end Counted

end HostBridge
