import HostBridge.HostArray
import HostBridge.Proofs.Memory.Region

namespace HostBridge.HostArray

variable {array : HostArray} {memory : Memory} {α : Type} [Stored α] {values : List α}

theorem length_elements (array : HostArray) (memory : Memory) :
    (array.elements memory : List α).length = if array.data = 0 then 0 else array.length := by
  rw [elements]
  split
  · rfl
  · rw [List.length_map, List.length_range]

theorem lt_length_elements_iff (memory : Memory) {index : Nat} :
    index < (array.elements memory : List α).length ↔ array.data ≠ 0 ∧ index < array.length := by
  rw [length_elements]
  split
  next hnull => exact ⟨fun h => absurd h (Nat.not_lt_zero index), fun h => absurd hnull h.1⟩
  next hdata => exact ⟨fun h => ⟨hdata, h⟩, And.right⟩

theorem address?_eq_some_iff (memory : Memory) {index : Nat} {place : Address} :
    array.address? (Stored.width α) index = some place ↔
      index < (array.elements memory : List α).length ∧
        place = array.address (Stored.width α) index := by
  rw [address?, lt_length_elements_iff]
  split
  next hnone =>
    constructor
    · nofun
    · rintro ⟨⟨hdata, hindex⟩, -⟩
      exact (hnone.elim hdata (Nat.not_le.mpr hindex)).elim
  next hsome =>
    obtain ⟨hdata, hindex⟩ := not_or.mp hsome
    rw [Option.some_inj, eq_comm]
    exact ⟨fun h => ⟨⟨hdata, Nat.lt_of_not_le hindex⟩, h⟩, And.right⟩

theorem isSome_address?_iff (memory : Memory) {index : Nat} :
    (array.address? (Stored.width α) index).isSome ↔
      index < (array.elements memory : List α).length := by
  rw [Option.isSome_iff_exists]
  constructor
  · rintro ⟨place, hplace⟩
    exact ((address?_eq_some_iff memory).mp hplace).1
  · intro hindex
    exact ⟨_, (address?_eq_some_iff memory).mpr ⟨hindex, rfl⟩⟩

theorem getElem?_elements {index : Nat} {place : Address}
    (h : array.address? (Stored.width α) index = some place) :
    (array.elements memory : List α)[index]? = some (memory.read place) := by
  obtain ⟨hindex, rfl⟩ := (address?_eq_some_iff memory).mp h
  obtain ⟨hdata, hinside⟩ := (lt_length_elements_iff memory).mp hindex
  rw [elements, if_neg hdata, List.getElem?_map, List.getElem?_range hinside]
  rfl

/-- If the storage does not wrap around, the address of an element is the one that the integers
give. -/
theorem toNat_address {width index : Nat} (hstorage : array.data.toNat + array.length * width ≤ 2 ^ 64)
    (hindex : index < array.length) :
    (array.address width index).toNat = array.data.toNat + index * width := by
  have hdata := array.data.toNat_lt
  have hend : index * width + width ≤ array.length * width := by
    rw [← Nat.succ_mul]
    exact Nat.mul_le_mul_right width hindex
  have hspace : array.data.toNat + index * width < 2 ^ 64 := by
    by_cases hwidth : width = 0
    · rw [hwidth, Nat.mul_zero, Nat.add_zero]
      exact hdata
    · omega
  calc (array.address width index).toNat
      = (array.data.toNat + index * width % 2 ^ 64) % 2 ^ 64 := by
        rw [address, UInt64.toNat_add, UInt64.toNat_ofNat']
    _ = array.data.toNat + index * width := by
        rw [Nat.add_mod_mod, Nat.mod_eq_of_lt hspace]

/-- Whether the values of an array are these. -/
def Holds (array : HostArray) (memory : Memory) (values : List α) : Prop :=
  if array.data = 0 then values = []
  else array.length = values.length ∧ memory.Holds array.data values

theorem elements_of_holds [Stored.Exact α] (h : array.Holds memory values) :
    array.elements memory = values := by
  rw [Holds] at h
  rw [elements]
  split at h
  next hnull => rw [if_pos hnull, h]
  next hdata =>
    obtain ⟨hlength, hholds⟩ := h
    rw [if_neg hdata, hlength]
    simp only [address, Nat.mul_comm _ (Stored.width α)]
    exact hholds.map_read

theorem elements_eq_iff_holds [Stored.Exact α] :
    array.elements memory = values ↔ array.Holds memory values := by
  refine ⟨?_, elements_of_holds⟩
  rintro rfl
  rw [Holds, length_elements]
  split
  next hnull => rw [elements, if_pos hnull]
  next hdata =>
    refine ⟨rfl, ?_⟩
    simp only [elements, hdata, if_false, address, Nat.mul_comm _ (Stored.width α)]
    exact Memory.holds_map_read memory array.data array.length

theorem length_of_holds (h : array.Holds memory values) : values.length < 2 ^ 31 := by
  rw [Holds] at h
  split at h
  next =>
    rw [h]
    exact Nat.two_pow_pos 31
  next =>
    have hcount := array.count.toInt_lt
    rw [← h.1, length]
    omega

theorem holds_store [Stored.Exact α] (memory : Memory) {data : Address} (hdata : data ≠ 0)
    (max : Int32) (hcount : values.length < 2 ^ 31)
    (hsize : Stored.width α * values.length ≤ UInt64.size) :
    Holds ⟨data, Int32.ofNat values.length, max⟩
      (memory.store data (values.flatMap Stored.encode)) values := by
  have hlength : (Int32.ofNat values.length).toInt = values.length :=
    Int32.toInt_ofNat_of_lt hcount
  rw [Holds, if_neg hdata]
  refine ⟨?_, Memory.holds_store hsize⟩
  rw [length, hlength, Int.toNat_natCast]

end HostBridge.HostArray
