import HostBridge.Proofs.Memory.Chain
import HostBridge.Reflection.Struct
import Mathlib.Order.Defs.Unbundled

namespace HostBridge.Struct

open Chain

variable {flavour : Flavour} {memory : Memory} {struct other : Address} {bound : Nat}
  {answer : Bool}

/-- Whether the walk up to a struct ends at an address. -/
def EndsAt (other address : Address) : Prop :=
  address = 0 ∨ address = other

/-- The walk answers if it ends before the bound, and says whether it ended before null. -/
theorem inheritsWithin_eq_some_iff :
    inheritsWithin flavour memory struct other bound = some answer ↔
      ∃ links < bound, FirstAfter (super flavour memory) (EndsAt other) struct links ∧
        answer = ((super flavour memory)^[links] struct != 0) := by
  induction bound generalizing struct with
  | zero => exact ⟨nofun, fun ⟨_, hlt, _⟩ => absurd hlt (Nat.not_lt_zero _)⟩
  | succ bound ih =>
      by_cases hends : EndsAt other struct
      · have hvalue :
            inheritsWithin flavour memory struct other (bound + 1) = some (struct != 0) := by
          rw [inheritsWithin]
          by_cases hnull : struct = 0
          · rw [if_pos hnull, hnull]
            rfl
          · rw [if_neg hnull, if_pos (hends.resolve_left hnull), bne_iff_ne.mpr hnull]
        rw [hvalue, Option.some.injEq]
        constructor
        · rintro rfl
          exact ⟨0, Nat.succ_pos bound, firstAfter_zero.mpr hends, rfl⟩
        · rintro ⟨links, -, hfirst, rfl⟩
          rw [hfirst.unique (firstAfter_zero.mpr hends), Function.iterate_zero_apply]
      · obtain ⟨hnull, hother⟩ := not_or.mp hends
        rw [inheritsWithin, if_neg hnull, if_neg hother, ih]
        constructor
        · rintro ⟨links, hlt, hfirst, hanswer⟩
          exact ⟨links + 1, Nat.succ_lt_succ hlt, firstAfter_succ.mpr ⟨hends, hfirst⟩, hanswer⟩
        · rintro ⟨links, hlt, hfirst, hanswer⟩
          cases links with
          | zero => exact absurd (firstAfter_zero.mp hfirst) hends
          | succ links =>
              exact ⟨links, Nat.lt_of_succ_lt_succ hlt, (firstAfter_succ.mp hfirst).2, hanswer⟩

/-- No walk that ends is too long. -/
theorem inherits?_eq_some_iff :
    inherits? flavour memory struct other = some answer ↔
      ∃ links, FirstAfter (super flavour memory) (EndsAt other) struct links ∧
        answer = ((super flavour memory)^[links] struct != 0) := by
  rw [inherits?, inheritsWithin_eq_some_iff]
  constructor
  · rintro ⟨links, -, hfirst, hanswer⟩
    exact ⟨links, hfirst, hanswer⟩
  · rintro ⟨links, hfirst, hanswer⟩
    obtain ⟨links', hlt, hfirst'⟩ := exists_firstAfter ⟨links, hfirst.1⟩
    obtain rfl := hfirst.unique hfirst'
    exact ⟨links, Nat.lt_succ_of_lt hlt, hfirst, hanswer⟩

theorem exists_inherits?_eq_some_iff :
    (∃ answer, inherits? flavour memory struct other = some answer) ↔
      Meets (super flavour memory) struct 0 ∨ Meets (super flavour memory) struct other := by
  constructor
  · rintro ⟨answer, h⟩
    obtain ⟨links, ⟨hends, hbelow⟩, -⟩ := inherits?_eq_some_iff.mp h
    have hnull : ∀ below < links, (super flavour memory)^[below] struct ≠ 0 :=
      fun below hlt => (not_or.mp (hbelow below hlt)).1
    exact hends.imp (fun hlast => ⟨links, hlast, hnull⟩) fun hlast => ⟨links, hlast, hnull⟩
  · intro h
    have hends : ∃ links, EndsAt other ((super flavour memory)^[links] struct) := by
      rcases h with ⟨links, hlast, -⟩ | ⟨links, hlast, -⟩
      · exact ⟨links, .inl hlast⟩
      · exact ⟨links, .inr hlast⟩
    obtain ⟨links, -, hfirst⟩ := exists_firstAfter hends
    exact ⟨_, inherits?_eq_some_iff.mpr ⟨links, hfirst, rfl⟩⟩

theorem inherits?_eq_true_iff :
    inherits? flavour memory struct other = some true ↔
      other ≠ 0 ∧ Meets (super flavour memory) struct other := by
  constructor
  · intro h
    obtain ⟨links, ⟨hends, hbelow⟩, hanswer⟩ := inherits?_eq_some_iff.mp h
    have hne := bne_iff_ne.mp hanswer.symm
    obtain rfl := hends.resolve_left hne
    exact ⟨hne, links, rfl, fun below hlt => (not_or.mp (hbelow below hlt)).1⟩
  · rintro ⟨hne, hmeets⟩
    obtain ⟨answer, h⟩ := exists_inherits?_eq_some_iff.mpr (.inr hmeets)
    obtain ⟨links, hfirst, hanswer⟩ := inherits?_eq_some_iff.mp h
    obtain ⟨further, rfl, hbefore⟩ := hmeets
    -- The struct is met where the walk ends or behind it, so no null comes before the end.
    have hle : links ≤ further := Nat.le_of_not_lt fun hlt => hfirst.2 further hlt (.inr rfl)
    have hlast : (super flavour memory)^[links] struct ≠ 0 := by
      rcases Nat.lt_or_eq_of_le hle with hlt | rfl
      · exact hbefore links hlt
      · exact hne
    rw [h, hanswer, bne_iff_ne.mpr hlast]

/-- Ancestry is decided wherever the way up comes to null or to the struct that is looked for, by
whether it comes to the latter; no bound on the walk gives another answer. Among structs whose way
up comes to null it is a partial order. -/
theorem inherits_decides_ancestry (flavour : Flavour) (memory : Memory) :
    (∀ struct other answer, inherits? flavour memory struct other = some answer ↔
      ∃ bound, inheritsWithin flavour memory struct other bound = some answer) ∧
    (∀ struct other, (∃ answer, inherits? flavour memory struct other = some answer) ↔
      Meets (super flavour memory) struct 0 ∨ Meets (super flavour memory) struct other) ∧
    (∀ struct other, inherits? flavour memory struct other = some true ↔
      other ≠ 0 ∧ Meets (super flavour memory) struct other) ∧
    IsPartialOrder {struct : Address // struct ≠ 0 ∧ Meets (super flavour memory) struct 0}
      fun low high => inherits? flavour memory low high = some true := by
  refine ⟨fun struct other answer => ?_, fun struct other => exists_inherits?_eq_some_iff,
    fun struct other => inherits?_eq_true_iff, ?_⟩
  · constructor
    · intro h
      exact ⟨_, h⟩
    · rintro ⟨bound, h⟩
      obtain ⟨links, -, hfirst⟩ := inheritsWithin_eq_some_iff.mp h
      exact inherits?_eq_some_iff.mpr ⟨links, hfirst⟩
  · refine { refl := fun struct => ?_, trans := fun low middle high hlow hhigh => ?_,
             antisymm := fun low high hup hdown => ?_ }
    · exact inherits?_eq_true_iff.mpr ⟨struct.2.1, Meets.refl struct.1⟩
    · obtain ⟨-, hlow⟩ := inherits?_eq_true_iff.mp hlow
      obtain ⟨hne, hhigh⟩ := inherits?_eq_true_iff.mp hhigh
      exact inherits?_eq_true_iff.mpr ⟨hne, hlow.trans hhigh⟩
    · obtain ⟨-, hup⟩ := inherits?_eq_true_iff.mp hup
      obtain ⟨-, hdown⟩ := inherits?_eq_true_iff.mp hdown
      exact Subtype.ext (low.2.2.antisymm hup hdown)

end HostBridge.Struct
