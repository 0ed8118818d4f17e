import HostBridge.Memory.Basic
import HostBridge.Memory.Bytes

/-!
# Values in host memory

A `Stored` type has a fixed-width little-endian image. On an `Exact` one images and values
correspond one to one, so that reading back a written value loses nothing and neither does writing
back a read one. Floating-point values are kept as their bits, which no read or write changes.
-/

namespace HostBridge

/-- Values with a fixed-width image in host memory. -/
class Stored (α : Type) where
  width : Nat
  encode : α → List UInt8
  decode : List UInt8 → α

/-- Values and byte strings of the width correspond one to one. -/
class Stored.Exact (α : Type) [Stored α] : Prop where
  length_encode (a : α) : (Stored.encode a).length = Stored.width α
  decode_encode (a : α) : (Stored.decode (Stored.encode a) : α) = a
  encode_decode (bytes : List UInt8) (h : bytes.length = Stored.width α) :
    Stored.encode (Stored.decode bytes : α) = bytes

/-- A value stored as a number of so many bytes. -/
@[reducible]
def Stored.ofNumber {α : Type} (width : Nat) (toNat : α → Nat) (ofNat : Nat → α) : Stored α where
  width := width
  encode a := Bytes.ofValue width (toNat a)
  decode bytes := ofNat (Bytes.value bytes)

theorem Stored.exact_ofNumber {α : Type} {width : Nat} {toNat : α → Nat} {ofNat : Nat → α}
    (toNat_lt : ∀ a, toNat a < Bytes.count width) (ofNat_toNat : ∀ a, ofNat (toNat a) = a)
    (toNat_ofNat : ∀ n, n < Bytes.count width → toNat (ofNat n) = n) :
    @Stored.Exact α (Stored.ofNumber width toNat ofNat) :=
  @Stored.Exact.mk α (Stored.ofNumber width toNat ofNat)
    (fun a => Bytes.length_ofValue width (toNat a))
    (fun a => by
      show ofNat (Bytes.value (Bytes.ofValue width (toNat a))) = a
      rw [Bytes.value_ofValue, Nat.mod_eq_of_lt (toNat_lt a), ofNat_toNat])
    (fun bytes h => by
      show Bytes.ofValue width (toNat (ofNat (Bytes.value bytes))) = bytes
      have h' : bytes.length = width := h
      rw [toNat_ofNat _ (h' ▸ Bytes.value_lt bytes), Bytes.ofValue_value h'])

/-- The bits of a single-precision number. -/
structure Binary32 where
  bits : UInt32
  deriving DecidableEq, Repr

/-- The bits of a double-precision number. -/
structure Binary64 where
  bits : UInt64
  deriving DecidableEq, Repr

instance : Stored UInt8 := .ofNumber 1 UInt8.toNat UInt8.ofNat
instance : Stored UInt16 := .ofNumber 2 UInt16.toNat UInt16.ofNat
instance : Stored UInt32 := .ofNumber 4 UInt32.toNat UInt32.ofNat
instance : Stored UInt64 := .ofNumber 8 UInt64.toNat UInt64.ofNat
instance : Stored Int8 := .ofNumber 1 (·.toUInt8.toNat) (UInt8.toInt8 ∘ UInt8.ofNat)
instance : Stored Int16 := .ofNumber 2 (·.toUInt16.toNat) (UInt16.toInt16 ∘ UInt16.ofNat)
instance : Stored Int32 := .ofNumber 4 (·.toUInt32.toNat) (UInt32.toInt32 ∘ UInt32.ofNat)
instance : Stored Int64 := .ofNumber 8 (·.toUInt64.toNat) (UInt64.toInt64 ∘ UInt64.ofNat)
instance : Stored Binary32 := .ofNumber 4 (·.bits.toNat) (Binary32.mk ∘ UInt32.ofNat)
instance : Stored Binary64 := .ofNumber 8 (·.bits.toNat) (Binary64.mk ∘ UInt64.ofNat)

/-- A truth value takes one byte; any byte but zero reads as true. -/
instance : Stored Bool := .ofNumber 1 Bool.toNat (· != 0)

instance : Stored.Exact UInt8 := Stored.exact_ofNumber UInt8.toNat_lt (by simp)
  fun n h => by simpa [Bytes.count] using h

instance : Stored.Exact UInt16 := Stored.exact_ofNumber UInt16.toNat_lt (by simp)
  fun n h => by simpa [Bytes.count] using h

instance : Stored.Exact UInt32 := Stored.exact_ofNumber UInt32.toNat_lt (by simp)
  fun n h => by simpa [Bytes.count] using h

instance : Stored.Exact UInt64 := Stored.exact_ofNumber UInt64.toNat_lt (by simp)
  fun n h => by simpa [Bytes.count] using h

instance : Stored.Exact Int8 := Stored.exact_ofNumber (fun a => a.toUInt8.toNat_lt) (by simp)
  fun n h => by simpa [Bytes.count] using h

instance : Stored.Exact Int16 := Stored.exact_ofNumber (fun a => a.toUInt16.toNat_lt) (by simp)
  fun n h => by simpa [Bytes.count] using h

instance : Stored.Exact Int32 := Stored.exact_ofNumber (fun a => a.toUInt32.toNat_lt) (by simp)
  fun n h => by simpa [Bytes.count] using h

instance : Stored.Exact Int64 := Stored.exact_ofNumber (fun a => a.toUInt64.toNat_lt) (by simp)
  fun n h => by simpa [Bytes.count] using h

instance : Stored.Exact Binary32 := Stored.exact_ofNumber (fun a => a.bits.toNat_lt) (by simp)
  fun n h => by simpa [Bytes.count] using h

instance : Stored.Exact Binary64 := Stored.exact_ofNumber (fun a => a.bits.toNat_lt) (by simp)
  fun n h => by simpa [Bytes.count] using h

section Product

variable {α β : Type} [Stored α] [Stored β]

/-- A pair lies in memory as its parts, one after the other. -/
instance : Stored (α × β) where
  width := Stored.width α + Stored.width β
  encode pair := Stored.encode pair.1 ++ Stored.encode pair.2
  decode bytes :=
    (Stored.decode (bytes.take (Stored.width α)), Stored.decode (bytes.drop (Stored.width α)))

instance [Stored.Exact α] [Stored.Exact β] : Stored.Exact (α × β) where
  length_encode pair := by
    simp [Stored.encode, Stored.width, Stored.Exact.length_encode]
  decode_encode pair := by
    have hleft := Stored.Exact.length_encode pair.1
    simp [Stored.encode, Stored.decode, ← hleft, Stored.Exact.decode_encode]
  encode_decode bytes h := by
    have h' : bytes.length = Stored.width α + Stored.width β := h
    simp [Stored.encode, Stored.decode, Stored.Exact.encode_decode, h']

end Product

/-- A type stored as another one that it corresponds to. -/
@[reducible]
def Stored.via {α β : Type} [Stored β] (parts : α → β) (whole : β → α) : Stored α where
  width := Stored.width β
  encode a := Stored.encode (parts a)
  decode bytes := whole (Stored.decode bytes)

theorem Stored.exact_via {α β : Type} [Stored β] [Stored.Exact β] {parts : α → β} {whole : β → α}
    (whole_parts : ∀ a, whole (parts a) = a) (parts_whole : ∀ b, parts (whole b) = b) :
    @Stored.Exact α (Stored.via parts whole) :=
  @Stored.Exact.mk α (Stored.via parts whole)
    (fun a => Stored.Exact.length_encode (parts a))
    (fun a => by
      show whole (Stored.decode (Stored.encode (parts a))) = a
      rw [Stored.Exact.decode_encode, whole_parts])
    (fun bytes h => by
      show Stored.encode (parts (whole (Stored.decode bytes))) = bytes
      rw [parts_whole]
      exact ‹Stored.Exact β›.encode_decode bytes h)

namespace Memory

/-- The value whose image starts at the address; alignment does not matter. -/
def read {α : Type} [Stored α] (memory : Memory) (address : Address) : α :=
  Stored.decode (memory.bytesAt address (Stored.width α))

def write {α : Type} [Stored α] (memory : Memory) (address : Address) (value : α) : Memory :=
  memory.store address (Stored.encode value)

end Memory

end HostBridge
