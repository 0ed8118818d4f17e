namespace HostBridge

abbrev Address := UInt64

@[ext]
structure Memory where
  byte : Address → UInt8

namespace Memory

def zeroed : Memory := ⟨fun _ => 0⟩

/-- The bytes at `start`, `start + 1`, …, in order. -/
def bytesAt (memory : Memory) (start : Address) (count : Nat) : List UInt8 :=
  (List.range count).map fun i => memory.byte (start + UInt64.ofNat i)

/-- The greatest distance from the start of a run of `count` addresses to one of them; a run that is
longer than the address space covers all of it. -/
def reach (count : Nat) : UInt64 :=
  UInt64.ofNat (min count UInt64.size - 1)

theorem le_reach {count : Nat} (h : 0 < count) (distance : UInt64) :
    distance ≤ reach count ↔ distance.toNat < count := by
  have hspace : UInt64.size = 2 ^ 64 := rfl
  have := distance.toNat_lt
  rw [reach, UInt64.le_iff_toNat_le, UInt64.toNat_ofNat', Nat.mod_eq_of_lt (by omega)]
  omega

/-- Overwrites the bytes at `start`, `start + 1`, …, with those of `bytes`. -/
def store (memory : Memory) (start : Address) (bytes : List UInt8) : Memory :=
  if bytes.isEmpty then
    memory
  else
    let cells := bytes.toArray
    let last := reach cells.size
    ⟨fun address =>
      let distance := address - start
      if distance ≤ last then cells.getD distance.toNat 0 else memory.byte address⟩

def fill (memory : Memory) (start : Address) (count : Nat) (value : UInt8) : Memory :=
  if count = 0 then
    memory
  else
    let last := reach count
    ⟨fun address => if address - start ≤ last then value else memory.byte address⟩

theorem byte_store (memory : Memory) (start : Address) (bytes : List UInt8) (address : Address) :
    (memory.store start bytes).byte address =
      (bytes[(address - start).toNat]?).getD (memory.byte address) := by
  by_cases hempty : bytes.isEmpty
  · simp [store, List.isEmpty_iff.mp hempty]
  · have hpos : 0 < bytes.length := List.length_pos_iff.mpr (by simpa using hempty)
    simp only [store, hempty, Bool.false_eq_true, if_false, List.size_toArray, le_reach hpos,
      Array.getD_eq_getD_getElem?, List.getElem?_toArray]
    split
    · next h => simp [h]
    · next h => simp [List.getElem?_eq_none (Nat.le_of_not_lt h)]

theorem byte_store_of_le {memory : Memory} {start address : Address} {bytes : List UInt8}
    (h : bytes.length ≤ (address - start).toNat) :
    (memory.store start bytes).byte address = memory.byte address := by
  simp [byte_store, List.getElem?_eq_none h]

@[simp]
theorem length_bytesAt (memory : Memory) (start : Address) (count : Nat) :
    (memory.bytesAt start count).length = count := by
  simp [bytesAt]

theorem getElem?_bytesAt (memory : Memory) (start : Address) (count i : Nat) (h : i < count) :
    (memory.bytesAt start count)[i]? = some (memory.byte (start + UInt64.ofNat i)) := by
  simp [bytesAt, h]

theorem bytesAt_store_self (memory : Memory) (start : Address) (bytes : List UInt8)
    (h : bytes.length ≤ UInt64.size) :
    (memory.store start bytes).bytesAt start bytes.length = bytes := by
  apply List.ext_getElem?
  intro i
  by_cases hi : i < bytes.length
  · have hoffset : (start + UInt64.ofNat i - start).toNat = i := by
      have : start + UInt64.ofNat i - start = UInt64.ofNat i := by
        rw [UInt64.add_comm, UInt64.add_sub_cancel]
      rw [this, UInt64.toNat_ofNat']
      exact Nat.mod_eq_of_lt (Nat.lt_of_lt_of_le hi h)
    rw [getElem?_bytesAt _ _ _ _ hi, byte_store, hoffset]
    simp [hi]
  · rw [List.getElem?_eq_none (by simpa using hi), List.getElem?_eq_none (by simpa using hi)]

end Memory

end HostBridge
