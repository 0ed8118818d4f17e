import HostBridge.Memory.Basic
import Mathlib.Data.Fintype.Pigeonhole
import Mathlib.Logic.Function.Iterate

/-!
# Chains of addresses

Host records name one another, so that an address leads to the next one, and null ends the chain. A
chain need not come to an end, but whatever is first met on it is met within `2 ^ 64` links: an
address that comes back before would come back for ever.
-/

namespace HostBridge.Chain

variable {next : Address → Address} {first middle last : Address} {links further : Nat}
  {p : Address → Prop}

/-- Whether what is so many links behind an address has a property, and nothing before it has. -/
def FirstAfter (next : Address → Address) (p : Address → Prop) (first : Address) (links : Nat) :
    Prop :=
  p (next^[links] first) ∧ ∀ before < links, ¬p (next^[before] first)

theorem firstAfter_zero : FirstAfter next p first 0 ↔ p first :=
  and_iff_left fun _ hbefore => absurd hbefore (Nat.not_lt_zero _)

theorem firstAfter_succ :
    FirstAfter next p first (links + 1) ↔ ¬p first ∧ FirstAfter next p (next first) links := by
  simp only [FirstAfter, Nat.forall_lt_succ_left, Function.iterate_succ_apply,
    Function.iterate_zero_apply]
  exact and_left_comm

theorem FirstAfter.unique {links' : Nat} (h : FirstAfter next p first links)
    (h' : FirstAfter next p first links') : links = links' := by
  refine Nat.le_antisymm (Nat.le_of_not_lt fun hlt => ?_) (Nat.le_of_not_lt fun hlt => ?_)
  · exact h.2 links' hlt h'.1
  · exact h'.2 links hlt h.1

/-- What is met first is met within as many links as there are addresses. -/
theorem exists_firstAfter (h : ∃ links, p (next^[links] first)) :
    ∃ links < UInt64.size, FirstAfter next p first links := by
  classical
  refine ⟨Nat.find h, Nat.lt_of_not_le fun hle => ?_, Nat.find_spec h,
    fun before hbefore => Nat.find_min h hbefore⟩
  let visit (links : Fin (UInt64.size + 1)) : Fin UInt64.size := (next^[links] first).toFin
  have hcard : Fintype.card (Fin UInt64.size) < Fintype.card (Fin (UInt64.size + 1)) := by
    rw [Fintype.card_fin, Fintype.card_fin]
    exact Nat.lt_succ_self _
  obtain ⟨i, j, hne, hvisit⟩ := Fintype.exists_ne_map_eq_of_card_lt visit hcard
  wlog hlt : i < j generalizing i j
  · exact this j i hne.symm hvisit.symm (lt_of_le_of_ne (not_lt.mp hlt) hne.symm)
  have hsame : next^[i] first = next^[j] first := UInt64.toFin_inj.mp hvisit
  -- Without the links between the two visits the chain comes to the same address sooner.
  have hj : (j : Nat) ≤ Nat.find h := Nat.le_trans (Nat.le_of_lt_succ j.isLt) hle
  have hshort : next^[Nat.find h - j + i] first = next^[Nat.find h] first := by
    rw [Function.iterate_add_apply, hsame, ← Function.iterate_add_apply, Nat.sub_add_cancel hj]
  have hsooner : Nat.find h - j + i < Nat.find h := by
    have hij : (i : Nat) < j := hlt
    omega
  exact Nat.find_min h hsooner (hshort ▸ Nat.find_spec h)

/-- Whether an address is so many links behind another one, and no null comes before it. -/
def MeetsAfter (next : Address → Address) (first last : Address) (links : Nat) : Prop :=
  next^[links] first = last ∧ ∀ before < links, next^[before] first ≠ 0

/-- Whether an address is met on the chain that starts with another one and ends with null. -/
def Meets (next : Address → Address) (first last : Address) : Prop :=
  ∃ links, MeetsAfter next first last links

theorem meetsAfter_zero : MeetsAfter next first last 0 ↔ first = last :=
  and_iff_left fun _ hbefore => absurd hbefore (Nat.not_lt_zero _)

theorem meetsAfter_succ :
    MeetsAfter next first last (links + 1) ↔
      first ≠ 0 ∧ MeetsAfter next (next first) last links := by
  simp only [MeetsAfter, Nat.forall_lt_succ_left, Function.iterate_succ_apply,
    Function.iterate_zero_apply]
  exact and_left_comm

theorem MeetsAfter.trans (h : MeetsAfter next first middle links)
    (h' : MeetsAfter next middle last further) :
    MeetsAfter next first last (further + links) := by
  obtain ⟨rfl, hfirst⟩ := h
  obtain ⟨rfl, hmiddle⟩ := h'
  refine ⟨Function.iterate_add_apply next further links first, fun before hbefore => ?_⟩
  by_cases hlinks : before < links
  · exact hfirst before hlinks
  · obtain ⟨rest, rfl⟩ := Nat.exists_eq_add_of_le (Nat.le_of_not_lt hlinks)
    rw [Nat.add_comm, Function.iterate_add_apply]
    exact hmiddle rest (by omega)

namespace Meets

theorem refl (first : Address) : Meets next first first :=
  ⟨0, meetsAfter_zero.mpr rfl⟩

theorem trans (h : Meets next first middle) (h' : Meets next middle last) :
    Meets next first last := by
  obtain ⟨links, h⟩ := h
  obtain ⟨further, h'⟩ := h'
  exact ⟨_, h.trans h'⟩

/-- Two addresses that meet each other are one if the chain ends: a detour would make it longer. -/
theorem antisymm (hnull : Meets next first 0) (hthere : Meets next first last)
    (hback : Meets next last first) : first = last := by
  obtain ⟨toNull, hnull⟩ := hnull
  obtain ⟨there, hthere⟩ := hthere
  obtain ⟨back, hback⟩ := hback
  have hdetour : MeetsAfter next first 0 _ := (hthere.trans hback).trans hnull
  have hsame := FirstAfter.unique (p := (· = 0)) hnull hdetour
  obtain rfl : there = 0 := by omega
  exact hthere.1

end Meets

/-- Whether a chain leads through a list of addresses to another address. -/
inductive Leads (next : Address → Address) : Address → List Address → Address → Prop where
  | here (address : Address) : Leads next address [] address
  | link {first last : Address} {own : List Address} (hfirst : first ≠ 0)
      (hrest : Leads next (next first) own last) : Leads next first (first :: own) last

end HostBridge.Chain
