import HostBridge.Proofs.Reflection.Elements
import HostBridge.Proofs.Registry.Setting

namespace HostBridge

/-- Whether an index is reported as out of range only where it is not below a bound, with the bound
that it fails. -/
def Truthful {α : Type} (bound : Nat) (outcome : Except Error α) : Prop :=
  ∀ index size, outcome = .error (.outOfRange index size) → size = bound ∧ size ≤ index

namespace Truthful

variable {α β : Type} {bound index size : Nat} {outcome : Except Error α}

theorem of_ok (value : α) : Truthful bound (.ok value) :=
  nofun

theorem outOfRange_iff :
    Truthful bound (.error (.outOfRange index size) : Except Error α)
      ↔ size = bound ∧ size ≤ index := by
  constructor
  · intro h
    exact h index size rfl
  · rintro h _ _ hreport
    cases hreport
    exact h

theorem map (h : Truthful bound outcome) (f : α → β) : Truthful bound (outcome.map f) := by
  intro index size hreport
  cases outcome with
  | ok value => cases hreport
  | error error =>
      cases hreport
      exact h index size rfl

end Truthful

namespace Registry

open ChunkMap (internalIndex)

theorem truthful_at (registry : Registry) (memory : Memory) (index : Nat) :
    Truthful (registry.size memory) (registry.at? memory index) := by
  rw [at?]
  split
  next hpast => exact Truthful.outOfRange_iff.mpr ⟨rfl, hpast⟩
  next => exact Truthful.of_ok _

/-- Whether an object says that it is in a live slot that has no item. -/
def LacksItem (registry : Registry) (memory : Memory) (object : Address) : Prop :=
  registry.flavour = .oak ∧ 0 ≤ internalIndex memory object ∧
    (internalIndex memory object).toInt.toNat < registry.size memory ∧
    itemAddress memory registry.header (internalIndex memory object).toInt.toNat = 0

theorem size_lt (registry : Registry) (memory : Memory) : registry.size memory < 2 ^ 31 := by
  have := (registry.count memory).toInt_lt
  rw [size]
  omega

theorem reference_of_lacksItem {registry : Registry} {memory : Memory} {object : Address}
    (h : registry.LacksItem memory object) :
    registry.reference memory (some object) =
      .error (.outOfRange (internalIndex memory object).toInt.toNat (registry.size memory)) := by
  obtain ⟨flavour, header⟩ := registry
  obtain ⟨rfl, hnonneg, -, hitem⟩ := h
  rw [reference_some, if_neg fun hslot => hslot.2.2 hitem, if_neg (Int32.not_lt.mpr hnonneg)]

/-- The item is all that a slot can lack unnoticed. -/
theorem truthful_reference {registry : Registry} {memory : Memory} {object : Address}
    (h : ¬registry.LacksItem memory object) :
    Truthful (registry.size memory) (registry.reference memory (some object)) := by
  obtain ⟨flavour, header⟩ := registry
  cases flavour with
  | willow => exact nofun
  | oak =>
      have hsize := size_lt ⟨.oak, header⟩ memory
      have hspace : UInt64.size = 2 ^ 64 := rfl
      rw [reference_some]
      by_cases hslot : (⟨.oak, header⟩ : Registry).HasSlot memory object
      · rw [if_pos hslot]
        exact Truthful.of_ok _
      rw [if_neg hslot, Truthful.outOfRange_iff]
      refine ⟨rfl, ?_⟩
      split
      next =>
        -- As an index, a negative number is above whatever the registry counts.
        omega
      next hnonneg =>
        refine Nat.le_of_not_lt fun hlive => ?_
        by_cases hitem : itemAddress memory header (internalIndex memory object).toInt.toNat = 0
        · exact h ⟨rfl, Int32.not_lt.mp hnonneg, hlive, hitem⟩
        · exact hslot ⟨Int32.not_lt.mp hnonneg, hlive, hitem⟩

end Registry

theorem Property.truthful_valueAddress (flavour : Flavour) (memory : Memory)
    (property container : Address) (index : Nat) :
    Truthful (dimension flavour memory property)
      (valueAddress flavour memory property container index) := by
  rw [valueAddress_eq]
  split
  next => exact Truthful.of_ok _
  next houtside => exact Truthful.outOfRange_iff.mpr ⟨rfl, Nat.le_of_not_lt houtside⟩

/-- Reports of an index out of range are truthful, but for the reference to an object that lacks an
item: it is refused because of a slot that is below the live end. -/
theorem reports_truthful (memory : Memory) (registry : Registry) (index : Nat)
    (object? : Option Address) (flavour : Flavour) (property container : Address) {α : Type}
    [Stored α] (value : α) :
    let live := registry.size memory
    let dimension := (Property.arrayDim flavour memory property).toInt.toNat
    Truthful live (registry.at? memory index) ∧
    (Truthful live (registry.reference memory object?) ↔
      ∀ object, object? = some object → ¬registry.LacksItem memory object) ∧
    Truthful dimension (Property.valueAddress flavour memory property container index) ∧
    Truthful dimension
      (Property.readValue flavour memory property container index : Except Error α) ∧
    Truthful dimension (Property.writeValue flavour memory property container index value) := by
  intro live dimension
  have haddress := Property.truthful_valueAddress flavour memory property container index
  refine ⟨registry.truthful_at memory index, ⟨?_, ?_⟩, haddress, haddress.map _, haddress.map _⟩
  · rintro htruthful object rfl hlacks
    obtain ⟨-, hpast⟩ := htruthful _ _ (Registry.reference_of_lacksItem hlacks)
    exact Nat.not_lt.mpr hpast hlacks.2.2.1
  · intro hnone
    cases object? with
    | some object => exact Registry.truthful_reference (hnone object rfl)
    | none =>
        obtain ⟨flavour, header⟩ := registry
        cases flavour <;> exact nofun

/-- Ten live slots without a chunk table, and an object that says that it is in one of them. -/
def bareRegistry : Memory :=
  let counted : Memory :=
    Memory.zeroed.write (Registry.memberAddress .registry .numElements 0x1000) (10 : Int32)
  counted.write (Entity.object.address .oak .internalIndex 0x3000) (3 : Int32)

/-- The same slot counts as live and empty when it is read. -/
theorem live_slot_out_of_range :
    let registry : Registry := ⟨.oak, 0x1000⟩
    registry.reference bareRegistry (some 0x3000) = .error (.outOfRange 3 10) ∧
      registry.at? bareRegistry 3 = .ok none ∧
      ¬Truthful (registry.size bareRegistry) (registry.reference bareRegistry (some 0x3000)) := by
  intro registry
  have hindex : ChunkMap.internalIndex bareRegistry 0x3000 = 3 := by decide +kernel
  have hsize : registry.size bareRegistry = 10 := by decide +kernel
  have hslot : registry.slot bareRegistry 3 = 0 := by decide +kernel
  have hlacks : registry.LacksItem bareRegistry 0x3000 := by
    refine ⟨rfl, ?_⟩
    decide +kernel
  have hreference := Registry.reference_of_lacksItem hlacks
  rw [hindex, hsize] at hreference
  refine ⟨hreference, ?_, fun htruthful => ?_⟩
  · rw [Registry.at?, hsize, hslot]
    rfl
  · obtain ⟨-, hpast⟩ := htruthful _ _ hreference
    exact absurd hpast (by decide)

end HostBridge
