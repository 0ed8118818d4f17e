import HostBridge.Layout.Cell
import HostBridge.Proofs.Memory.Region

/-!
# Images of cells

What a cell loads is given by the bytes of its width, least byte first; `decode` says how. Setting a
cell is the inverse of that: the image of a datum is the one byte string of the width that decodes
to it, and a datum without such a byte string does not fit.
-/

namespace HostBridge

/-- Writing a value and reading it are inverse on byte strings of the width. -/
theorem Stored.Exact.encode_eq_iff {α : Type} [Stored α] [Stored.Exact α] {a : α}
    {bytes : List UInt8} :
    Stored.encode a = bytes ↔ bytes.length = Stored.width α ∧ Stored.decode bytes = a := by
  constructor
  · rintro rfl
    exact ⟨Stored.Exact.length_encode a, Stored.Exact.decode_encode a⟩
  · rintro ⟨hlength, rfl⟩
    exact Stored.Exact.encode_decode bytes hlength

namespace Cell

variable {cell : Cell} {memory memory' : Memory} {address : Address} {datum : Datum}
  {bytes image : List UInt8} {width : Nat} {least value : Int}

/-- The number from `least` on that agrees with a little-endian byte string modulo the number of
byte strings of its length. -/
def number (least : Int) (bytes : List UInt8) : Int :=
  least + (Bytes.value bytes - least) % Bytes.count bytes.length

/-- The datum that a cell's bytes stand for, least byte first; signed numbers are in two's
complement. -/
def decode : Cell → List UInt8 → Datum
  | .u8, bytes | .u16, bytes | .u32, bytes | .u64, bytes => .number (number 0 bytes)
  | .i32, bytes => .number (number Int32.minValue.toInt bytes)
  | .i64, bytes => .number (number Int64.minValue.toInt bytes)
  | .truth, bytes => .truth (Stored.decode bytes)
  | .address, bytes => .address (Stored.decode bytes)
  | .name, bytes => .name (Stored.decode bytes)
  | .array, bytes => .array (Stored.decode bytes)
  | .reserved _, bytes => .bytes bytes

theorem number_zero : number 0 bytes = Bytes.value bytes := by
  rw [number, Int.sub_zero, Int.zero_add]
  exact Int.emod_eq_of_lt (Int.natCast_nonneg _) (Int.ofNat_lt.mpr (Bytes.value_lt bytes))

/-- The balanced remainder of a byte string's number is the number in two's complement. -/
theorem bmod_value {half : Nat} (hcount : Bytes.count bytes.length = 2 * half) :
    (Bytes.value bytes : Int).bmod (Bytes.count bytes.length) = number (-half) bytes := by
  have hlt : Bytes.value bytes < 2 * half := hcount ▸ Bytes.value_lt bytes
  rw [number, hcount, Int.bmod_def, Int.emod_eq_of_lt (by omega) (by omega)]
  split
  · rw [Int.emod_eq_of_lt (by omega) (by omega)]
    omega
  · have hwrap : (Bytes.value bytes - -half : Int) = Bytes.value bytes - half + (2 * half : Nat) := by
      omega
    rw [hwrap, Int.add_emod_right, Int.emod_eq_of_lt (by omega) (by omega)]
    omega

theorem toInt_toInt32_ofNat (hlength : bytes.length = 4) :
    (UInt32.ofNat (Bytes.value bytes)).toInt32.toInt = number Int32.minValue.toInt bytes := by
  have hcount : Bytes.count bytes.length = 2 * 2 ^ 31 := by rw [hlength]; rfl
  have hbmod := bmod_value hcount
  rw [hcount] at hbmod
  rw [UInt32.toInt32_ofNat', Int32.toInt_ofNat']
  exact hbmod

theorem toInt_toInt64_ofNat (hlength : bytes.length = 8) :
    (UInt64.ofNat (Bytes.value bytes)).toInt64.toInt = number Int64.minValue.toInt bytes := by
  have hcount : Bytes.count bytes.length = 2 * 2 ^ 63 := by rw [hlength]; rfl
  have hbmod := bmod_value hcount
  rw [hcount] at hbmod
  rw [UInt64.toInt64_ofNat', Int64.toInt_ofNat']
  exact hbmod

theorem load_eq_decode :
    cell.load memory address = cell.decode (memory.bytesAt address cell.size) := by
  have hlength := memory.length_bytesAt address cell.size
  have hlt := Bytes.value_lt (memory.bytesAt address cell.size)
  rw [hlength] at hlt
  cases cell with
  | u8 | u16 | u32 | u64 =>
      refine congrArg Datum.number ?_
      rw [number_zero]
      exact congrArg Nat.cast (Nat.mod_eq_of_lt hlt)
  | i32 => exact congrArg Datum.number (toInt_toInt32_ofNat hlength)
  | i64 => exact congrArg Datum.number (toInt_toInt64_ofNat hlength)
  | truth | address | name | array | reserved => rfl

theorem load_congr (h : Memory.EqOn ⟨address, cell.size⟩ memory memory') :
    cell.load memory address = cell.load memory' address := by
  rw [load_eq_decode, load_eq_decode, h.bytesAt_eq]

theorem number_emod_count :
    number least bytes % Bytes.count bytes.length = Bytes.value bytes := by
  rw [number, Int.add_emod_emod, ← Int.add_sub_assoc, Int.add_comm, Int.add_sub_cancel]
  exact Int.emod_eq_of_lt (Int.natCast_nonneg _) (Int.ofNat_lt.mpr (Bytes.value_lt bytes))

theorem number_ofValue (hleast : least ≤ value) (hend : value < least + Bytes.count width) :
    number least (Bytes.ofValue width (value % Bytes.count width).toNat) = value := by
  have hcount : (Bytes.count width : Int) ≠ 0 := by omega
  rw [number, Bytes.length_ofValue, Bytes.value_ofValue, Int.natCast_emod,
    Int.toNat_of_nonneg (Int.emod_nonneg _ hcount), Int.emod_emod, Int.emod_sub_emod,
    Int.emod_eq_of_lt (by omega) (by omega)]
  omega

/-- The image of a number is the byte string of the width that stands for it. -/
theorem numberImage?_eq_some_iff :
    numberImage? width least value = some image ↔
      image.length = width ∧ number least image = value := by
  rw [numberImage?, Option.ite_none_right_eq_some]
  constructor
  · rintro ⟨⟨hleast, hend⟩, himage⟩
    obtain rfl := Option.some.inj himage
    exact ⟨Bytes.length_ofValue .., number_ofValue hleast hend⟩
  · rintro ⟨rfl, rfl⟩
    have hcount : 0 < (Bytes.count image.length : Int) :=
      Int.natCast_pos.mpr (Nat.pow_pos (by decide))
    have hnonneg := Int.emod_nonneg (Bytes.value image - least) (Int.ne_of_gt hcount)
    have hlt := Int.emod_lt_of_pos (Bytes.value image - least) hcount
    refine ⟨⟨Int.le_add_of_nonneg_right hnonneg, Int.add_lt_add_left hlt least⟩, ?_⟩
    rw [number_emod_count, Int.toNat_natCast, Bytes.ofValue_value rfl]

/-- The image of a datum is the byte string that decodes to it. For a truth cell there may be more
than one, since any byte but zero decodes to true. -/
theorem image?_eq_some_iff (hexact : cell ≠ .truth) :
    cell.image? datum = some image ↔ image.length = cell.size ∧ cell.decode image = datum := by
  cases cell with
  | u8 | u16 | u32 | u64 | i32 | i64 =>
      cases datum with
      | number value =>
          rw [decode, Datum.number.injEq]
          exact numberImage?_eq_some_iff
      | _ => simp [image?, decode]
  | truth => exact absurd rfl hexact
  | address =>
      cases datum with
      | address value =>
          rw [image?, Option.some.injEq, decode, Datum.address.injEq]
          exact Stored.Exact.encode_eq_iff
      | _ => simp [image?, decode]
  | name =>
      cases datum with
      | name value =>
          rw [image?, Option.some.injEq, decode, Datum.name.injEq]
          exact Stored.Exact.encode_eq_iff
      | _ => simp [image?, decode]
  | array =>
      cases datum with
      | array value =>
          rw [image?, Option.some.injEq, decode, Datum.array.injEq]
          exact Stored.Exact.encode_eq_iff
      | _ => simp [image?, decode]
  | reserved count =>
      cases datum with
      | bytes value =>
          rw [image?, Option.ite_none_right_eq_some, Option.some.injEq, decode, Datum.bytes.injEq]
          constructor
          · rintro ⟨hlength, rfl⟩
            exact ⟨hlength, rfl⟩
          · rintro ⟨hlength, rfl⟩
            exact ⟨hlength, rfl⟩
      | _ => simp [image?, decode]

end Cell

end HostBridge
