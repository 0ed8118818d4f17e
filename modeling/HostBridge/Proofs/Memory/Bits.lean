import HostBridge.Proofs.Memory.Region

namespace HostBridge

namespace Bytes

theorem count_eq_two_pow (width : Nat) : count width = 2 ^ (8 * width) :=
  (Nat.pow_mul 2 8 width).symm

theorem testBit_value (bytes : List UInt8) (i : Nat) (k : Fin 8) :
    (value bytes).testBit (8 * i + k) = (bytes[i]?.getD 0).toNat.testBit k := by
  induction bytes generalizing i with
  | nil => simp [value]
  | cons byte rest ih =>
      have hbyte : byte.toNat < 2 ^ 8 := byte.toNat_lt
      have hvalue : value (byte :: rest) = 2 ^ 8 * value rest + byte.toNat := Nat.add_comm ..
      rw [hvalue, Nat.testBit_two_pow_mul_add _ hbyte]
      cases i with
      | zero =>
          rw [Nat.mul_zero, Nat.zero_add, if_pos k.isLt]
          rfl
      | succ i =>
          have hindex : 8 * (i + 1) + k - 8 = 8 * i + k := by omega
          rw [if_neg (by omega), hindex, ih]
          rfl

end Bytes

namespace Memory

variable {memory memory' : Memory} {start : Address} {width : Nat} {place : Address × Fin 8}

/-- A bit of memory, by the address of its byte and its number in it. -/
def bit (memory : Memory) (place : Address × Fin 8) : Bool :=
  (memory.byte place.1).toNat.testBit place.2

def number (memory : Memory) (start : Address) (width : Nat) : Nat :=
  Bytes.value (memory.bytesAt start width)

def bitIndex (start : Address) (place : Address × Fin 8) : Nat :=
  8 * (place.1 - start).toNat + place.2

theorem add_ofNat_sub (start address : Address) :
    start + UInt64.ofNat (address - start).toNat = address := by
  rw [UInt64.ofNat_toNat]
  grind

theorem toNat_add_ofNat_sub (start : Address) {distance : Nat} (h : distance < UInt64.size) :
    (start + UInt64.ofNat distance - start).toNat = distance := by
  rw [UInt64.add_comm, UInt64.add_sub_cancel, UInt64.toNat_ofNat', Nat.mod_eq_of_lt h]

theorem byte_eq_of_bits {address : Address}
    (h : ∀ k, memory.bit (address, k) = memory'.bit (address, k)) :
    memory.byte address = memory'.byte address := by
  refine UInt8.toNat_inj.mp (Nat.eq_of_testBit_eq fun k => ?_)
  by_cases hk : k < 8
  · exact h ⟨k, hk⟩
  · have hhigh (byte : UInt8) : byte.toNat.testBit k = false :=
      Nat.testBit_lt_two_pow (Nat.lt_of_lt_of_le byte.toNat_lt
        (Nat.pow_le_pow_right (by decide) (Nat.le_of_not_lt hk)))
    rw [hhigh, hhigh]

theorem number_lt (memory : Memory) (start : Address) (width : Nat) :
    memory.number start width < 2 ^ (8 * width) := by
  have h := Bytes.value_lt (memory.bytesAt start width)
  rwa [length_bytesAt, Bytes.count_eq_two_pow] at h

theorem toNat_read_word (memory : Memory) (address : Address) :
    (memory.read address : UInt32).toNat = memory.number address 4 :=
  (UInt32.toNat_ofNat' ..).trans (Nat.mod_eq_of_lt (memory.number_lt address 4))

theorem toNat_byte (memory : Memory) (address : Address) :
    (memory.byte address).toNat = memory.number address 1 := by
  have haddress : address + UInt64.ofNat 0 = address := UInt64.add_zero address
  rw [number, bytesAt, List.range_one, List.map_singleton, haddress]
  rfl

theorem bitIndex_lt (h : (place.1 - start).toNat < width) : bitIndex start place < 8 * width := by
  have := place.2.isLt
  rw [bitIndex]
  omega

theorem testBit_number (h : (place.1 - start).toNat < width) :
    (memory.number start width).testBit (bitIndex start place) = memory.bit place := by
  rw [number, bitIndex, Bytes.testBit_value, getElem?_bytesAt _ _ _ _ h, add_ofNat_sub]
  rfl

theorem number_store (hwidth : width ≤ UInt64.size) {value : Nat}
    (hvalue : value < 2 ^ (8 * width)) :
    (memory.store start (Bytes.ofValue width value)).number start width = value := by
  have hlength := Bytes.length_ofValue width value
  have hbytes := memory.bytesAt_store_self start (Bytes.ofValue width value)
    (Nat.le_trans (Nat.le_of_eq hlength) hwidth)
  rw [hlength] at hbytes
  rw [number, hbytes, Bytes.value_ofValue, Bytes.count_eq_two_pow, Nat.mod_eq_of_lt hvalue]

theorem bit_store (hwidth : width ≤ UInt64.size) {value : Nat} (hvalue : value < 2 ^ (8 * width)) :
    (memory.store start (Bytes.ofValue width value)).bit place =
      if (place.1 - start).toNat < width then value.testBit (bitIndex start place)
      else memory.bit place := by
  split
  next hinside => rw [← testBit_number hinside, number_store hwidth hvalue]
  next houtside =>
    have hlength : (Bytes.ofValue width value).length ≤ (place.1 - start).toNat := by
      rw [Bytes.length_ofValue]
      exact Nat.le_of_not_lt houtside
    rw [bit, byte_store_of_le hlength, bit]

end Memory

end HostBridge
