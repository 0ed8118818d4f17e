namespace HostBridge.Bytes

def count (width : Nat) : Nat := Nat.pow 256 width

/-- The number a byte string stands for, least byte first. -/
def value : List UInt8 → Nat
  | [] => 0
  | byte :: rest => byte.toNat + 256 * value rest

def ofValue : Nat → Nat → List UInt8
  | 0, _ => []
  | width + 1, number => UInt8.ofNat number :: ofValue width (number / 256)

theorem count_succ (width : Nat) : count (width + 1) = 256 * count width := by
  simp [count, Nat.pow_succ, Nat.mul_comm]

@[simp]
theorem length_ofValue (width number : Nat) : (ofValue width number).length = width := by
  induction width generalizing number with
  | zero => rfl
  | succ width ih => simp [ofValue, ih]

theorem value_lt (bytes : List UInt8) : value bytes < count bytes.length := by
  induction bytes with
  | nil => simp [value, count]
  | cons byte rest ih =>
    have := byte.toNat_lt
    simp only [value, List.length_cons, count_succ]
    omega

theorem value_ofValue (width number : Nat) :
    value (ofValue width number) = number % count width := by
  induction width generalizing number with
  | zero => simp [ofValue, value, count, Nat.mod_one]
  | succ width ih =>
    have hbyte : (UInt8.ofNat number).toNat = number % 256 := by simp
    rw [ofValue, value, ih, hbyte, count_succ, Nat.mod_mul]

theorem ofValue_value {width : Nat} {bytes : List UInt8} (h : bytes.length = width) :
    ofValue width (value bytes) = bytes := by
  induction bytes generalizing width with
  | nil => subst h; rfl
  | cons byte rest ih =>
    subst h
    have := byte.toNat_lt
    have hhead : UInt8.ofNat (byte.toNat + 256 * value rest) = byte := by
      apply UInt8.toNat_inj.mp
      simp only [UInt8.toNat_ofNat']
      omega
    have htail : (byte.toNat + 256 * value rest) / 256 = value rest := by omega
    simp [ofValue, value, hhead, htail, ih rfl]

end HostBridge.Bytes
