import HostBridge.Proofs.Reflection.PackedBools

/-!
# Single bits

A packed boolean that is made of one bit is this bit of memory: it reads as the bit, and setting it
changes nothing else, whatever number the bit is read and written with. So a bit of a word, as a
willow host describes it, and the same bit as one of a byte, as an oak host does, are one variable.
-/

namespace HostBridge.PackedBool

/-- Where in memory a bit of a number is that starts at an address. -/
def bitPlace (start : Address) (bit : Nat) : Address × Fin 8 :=
  (start + UInt64.ofNat (bit / 8), ⟨bit % 8, Nat.mod_lt _ (by decide)⟩)

theorem eq_bitPlace {start : Address} {place : Address × Fin 8} {bit : Nat}
    (h : Memory.bitIndex start place = bit) : place = bitPlace start bit := by
  have hlt := place.2.isLt
  rw [Memory.bitIndex] at h
  have hdistance : (place.1 - start).toNat = bit / 8 := by omega
  have hnumber : place.2.val = bit % 8 := by omega
  refine Prod.ext ?_ (Fin.ext hnumber)
  rw [bitPlace, ← hdistance, Memory.add_ofNat_sub]

theorem BitField.places_of_mask {field : BitField} {bit : Nat} (hmask : field.mask = 2 ^ bit) :
    field.places = {bitPlace field.start bit} := by
  have hbit : field.mask.testBit bit := by rw [hmask, Nat.testBit_two_pow_self]
  obtain ⟨place, hmem, hindex⟩ := field.exists_place hbit
  ext other
  rw [Finset.mem_singleton]
  constructor
  · intro hother
    have hset := (mem_places.mp hother).2
    rw [hmask, Nat.testBit_two_pow, decide_eq_true_eq] at hset
    exact eq_bitPlace hset.symm
  · rintro rfl
    rwa [← eq_bitPlace hindex]

namespace Flag

variable {flag other : Flag} {memory memory' : Memory} {place : Address × Fin 8}

/-- Whether a flag is one bit of memory. -/
structure IsBit (flag : Flag) (memory : Memory) (place : Address × Fin 8) : Prop where
  places_eq : (flag.field memory).places = {place}
  raises : (flag.field memory).Raises

namespace IsBit

theorem testBit_raised (h : flag.IsBit memory place) :
    (flag.field memory).raised.testBit (Memory.bitIndex (flag.field memory).start place) := by
  obtain ⟨i, hi⟩ := Nat.exists_testBit_of_ne_zero h.raises.1
  obtain ⟨raised, hmem, rfl⟩ := (flag.field memory).exists_place (h.raises.testBit_mask hi)
  rw [h.places_eq, Finset.mem_singleton] at hmem
  rwa [hmem] at hi

theorem read_eq (h : flag.IsBit memory place) : flag.read memory = memory.bit place := by
  rw [Bool.eq_iff_iff, read_iff, h.places_eq]
  simp only [Finset.mem_singleton, exists_eq_left]

theorem bit_assign (h : flag.IsBit memory place) (value : Bool) (at' : Address × Fin 8) :
    (flag.assign value memory).bit at' = if at' = place then value else memory.bit at' := by
  have hmem : at' ∈ (flag.field memory).places ↔ at' = place := by
    rw [h.places_eq, Finset.mem_singleton]
  rw [Flag.bit_assign h.raises]
  refine ite_congr (propext hmem) (fun heq => ?_) fun _ => rfl
  rw [heq, h.testBit_raised, Bool.and_true]

theorem assign_eq (h : flag.IsBit memory place) (h' : other.IsBit memory place) (value : Bool) :
    flag.assign value memory = other.assign value memory := by
  ext1
  funext address
  refine Memory.byte_eq_of_bits fun bit => ?_
  rw [h.bit_assign, h'.bit_assign]

theorem congr (h : flag.IsBit memory place) (heq : Memory.EqOn flag.descriptor memory memory') :
    flag.IsBit memory' place := by
  have hfield := field_congr heq
  exact ⟨hfield ▸ h.places_eq, hfield ▸ h.raises⟩

theorem eqOn_assign (h : flag.IsBit memory place) {region : Region} (hapart : place.1 ∉ region)
    (value : Bool) : Memory.EqOn region (flag.assign value memory) memory := by
  refine fun address haddress => Memory.byte_eq_of_bits fun bit => ?_
  rw [h.bit_assign, if_neg]
  rintro rfl
  exact hapart haddress

end IsBit

theorem isBit_of_mask {bit : Nat} (hmask : (flag.field memory).mask = 2 ^ bit)
    (hraised : (flag.field memory).raised = 2 ^ bit) :
    flag.IsBit memory (bitPlace (flag.field memory).start bit) := by
  refine ⟨BitField.places_of_mask hmask, ?_, ?_⟩
  · rw [hraised]
    exact Nat.pos_iff_ne_zero.mp (Nat.two_pow_pos _)
  · rw [hraised, hmask, Nat.and_self]

def wordAt (container : Address) (offset : Int32) : Address :=
  container + UInt64.ofInt offset.toInt

variable {property container : Address} {offset : Int32} {bit : Nat}

theorem isBit_willow (hoffset : Property.offset .willow memory property = offset)
    (hmask : (Willow.mask memory property).toNat = 2 ^ bit) :
    (⟨.willow, property, container⟩ : Flag).IsBit memory
      (bitPlace (wordAt container offset) bit) := by
  subst hoffset
  have hone : ((⟨.willow, property, container⟩ : Flag).field memory).mask = 2 ^ bit := hmask
  exact isBit_of_mask hone hone

/-- A byte and a bit in it come to the bit of the word that they are counted off from. -/
theorem isBit_describe (hbit : bit < 32)
    (hoffset : Property.offset .oak (Oak.describe memory property (UInt8.ofNat (bit / 8))
      (UInt8.ofNat (bit % 8))) property = offset) :
    (⟨.oak, property, container⟩ : Flag).IsBit
      (Oak.describe memory property (UInt8.ofNat (bit / 8)) (UInt8.ofNat (bit % 8)))
      (bitPlace (wordAt container offset) bit) := by
  subst hoffset
  let described := Oak.describe memory property (UInt8.ofNat (bit / 8)) (UInt8.ofNat (bit % 8))
  let flag : Flag := ⟨.oak, property, container⟩
  have hsmall {number : Nat} (h : number < 8) : (UInt8.ofNat number).toNat = number :=
    UInt8.toNat_ofNat_of_lt' (Nat.lt_trans h (by decide))
  have hnumber : bit % 8 < 8 := Nat.mod_lt _ (by decide)
  have hpower : ((1 : UInt8) <<< (UInt8.ofNat (bit % 8) &&& 7)).toNat = 2 ^ (bit % 8) := by
    rw [toNat_one_shiftLeft, hsmall hnumber, Nat.mod_mod]
  have hmask : (flag.field described).mask = 2 ^ (bit % 8) :=
    (congrArg UInt8.toNat (mask_describe ..)).trans hpower
  have hraised : (flag.field described).raised = 2 ^ (bit % 8) :=
    (congrArg UInt8.toNat (byteMask_describe ..)).trans hpower
  have hstart : (flag.field described).start
      = wordAt container (Property.offset .oak described property) + UInt64.ofNat (bit / 8) := by
    have hbyteOffset : Oak.byteOffset described property = UInt8.ofNat (bit / 8) :=
      byteOffset_describe ..
    have hword : (UInt8.ofNat (bit / 8)).toUInt64 = UInt64.ofNat (bit / 8) := by
      rw [← UInt64.toNat_inj, UInt8.toNat_toUInt64, hsmall (by omega), UInt64.toNat_ofNat']
      omega
    rw [← hword, ← hbyteOffset]
    rfl
  have hplace := isBit_of_mask hmask hraised
  rw [hstart] at hplace
  convert hplace using 1
  simp only [bitPlace, Nat.div_eq_of_lt hnumber, Nat.mod_mod]
  exact congrArg (Prod.mk · _) (UInt64.add_zero _).symm

end Flag

/-- A flag of a container as hosts of both flavours describe it. -/
structure Twins where
  willow : Address
  oak : Address
  container : Address

namespace Twins

variable {twins : Twins} {memory : Memory} {place : Address × Fin 8}

def flag (twins : Twins) : Flavour → Flag
  | .willow => ⟨.willow, twins.willow, twins.container⟩
  | .oak => ⟨.oak, twins.oak, twins.container⟩

/-- Sets the flag over and over, each time through one of its descriptions. -/
def assignAll (twins : Twins) (settings : List (Flavour × Bool)) (memory : Memory) : Memory :=
  settings.foldl (fun memory (flavour, value) => (twins.flag flavour).assign value memory) memory

/-- Whether both descriptions are of one bit of memory. -/
def AreBit (twins : Twins) (memory : Memory) (place : Address × Fin 8) : Prop :=
  ∀ flavour, (twins.flag flavour).IsBit memory place

namespace AreBit

theorem assign (h : twins.AreBit memory place)
    (hapart : ∀ flavour, place.1 ∉ (twins.flag flavour).descriptor) (flavour : Flavour)
    (value : Bool) : twins.AreBit ((twins.flag flavour).assign value memory) place := by
  intro flavour'
  have hsame := (h flavour).eqOn_assign (hapart flavour') value
  exact (h flavour').congr hsame.symm

theorem assignAll (h : twins.AreBit memory place)
    (hapart : ∀ flavour, place.1 ∉ (twins.flag flavour).descriptor)
    (settings : List (Flavour × Bool)) :
    twins.AreBit (twins.assignAll settings memory) place := by
  induction settings generalizing memory with
  | nil => exact h
  | cons setting rest ih =>
      obtain ⟨flavour, value⟩ := setting
      exact ih (h.assign hapart flavour value)

/-- Which of the descriptions the flag is set through makes no difference. -/
theorem assignAll_eq (h : twins.AreBit memory place)
    (hapart : ∀ flavour, place.1 ∉ (twins.flag flavour).descriptor)
    (settings : List (Flavour × Bool)) (flavour : Flavour) :
    twins.assignAll settings memory
      = twins.assignAll (settings.map fun (_, value) => (flavour, value)) memory := by
  induction settings generalizing memory with
  | nil => rfl
  | cons setting rest ih =>
      obtain ⟨assigned, value⟩ := setting
      refine (ih (h.assign hapart assigned value)).trans ?_
      rw [(h assigned).assign_eq (h flavour)]
      rfl

theorem bit_assignAll (h : twins.AreBit memory place)
    (hapart : ∀ flavour, place.1 ∉ (twins.flag flavour).descriptor)
    (settings : List (Flavour × Bool)) :
    (twins.assignAll settings memory).bit place
      = (settings.getLast?.map Prod.snd).getD (memory.bit place) := by
  induction settings generalizing memory with
  | nil => rfl
  | cons setting rest ih =>
      obtain ⟨assigned, value⟩ := setting
      refine (ih (h.assign hapart assigned value)).trans ?_
      rw [(h assigned).bit_assign, if_pos rfl, List.getLast?_cons]
      cases rest.getLast? with
      | none => rfl
      | some last => rfl

end AreBit

/-- Describes the flag to an oak host as a bit of the word at the property's offset. -/
def describe (twins : Twins) (bit : Nat) (memory : Memory) : Memory :=
  Oak.describe memory twins.oak (UInt8.ofNat (bit / 8)) (UInt8.ofNat (bit % 8))

/-- A bit of a word by its mask, and the same bit by its byte and its number in it, are one flag. In
every memory with these descriptions both read the same, and setting one of them is setting the
other. If the bit lies in neither description, this goes on however often the flag is set. -/
theorem flavours_agree (twins : Twins) (memory : Memory) (offset : Int32) {bit : Nat}
    (hbit : bit < 32)
    (hwillow : Property.offset .willow (twins.describe bit memory) twins.willow = offset)
    (hmask : (Willow.mask (twins.describe bit memory) twins.willow).toNat = 2 ^ bit)
    (hoak : Property.offset .oak (twins.describe bit memory) twins.oak = offset) {other : Memory}
    (hother : ∀ flavour,
      Memory.EqOn (twins.flag flavour).descriptor (twins.describe bit memory) other) :
    get .willow other twins.willow twins.container = get .oak other twins.oak twins.container ∧
      (∀ value, set .willow other twins.willow twins.container value
        = set .oak other twins.oak twins.container value) ∧
      ((∀ flavour, (bitPlace (Flag.wordAt twins.container offset) bit).1
        ∉ (twins.flag flavour).descriptor) →
        ∀ settings flavour, let final := twins.assignAll settings other
          final = twins.assignAll (settings.map fun (_, value) => (flavour, value)) other ∧
            (twins.flag flavour).read final
              = (settings.getLast?.map Prod.snd).getD ((twins.flag flavour).read other)) := by
  have hbits : twins.AreBit other (bitPlace (Flag.wordAt twins.container offset) bit) := by
    intro flavour
    cases flavour with
    | willow => exact (Flag.isBit_willow hwillow hmask).congr (hother .willow)
    | oak => exact (Flag.isBit_describe hbit hoak).congr (hother .oak)
  refine ⟨?_, fun value => ?_, fun hapart settings flavour => ⟨?_, ?_⟩⟩
  · exact (hbits .willow).read_eq.trans (hbits .oak).read_eq.symm
  · exact (hbits .willow).assign_eq (hbits .oak) value
  · exact hbits.assignAll_eq hapart settings flavour
  · rw [(hbits.assignAll hapart settings flavour).read_eq, (hbits flavour).read_eq]
    exact hbits.bit_assignAll hapart settings

/-- A flag in a word that starts before the container and is not aligned. -/
def unalignedTwins : Twins := ⟨0x2000, 0x1000, 0x9004⟩

def unalignedMemory : Memory :=
  let atOffset (flavour : Flavour) (property : Address) (memory : Memory) :=
    memory.write (Entity.property.address flavour .offsetInternal property) (-3 : Int32)
  Memory.zeroed |> atOffset .willow 0x2000 |> atOffset .oak 0x1000
    |> (·.write (Entity.boolProperty.address .willow .fieldMask 0x2000) (0x200000 : UInt32))

/-- The same descriptions, with other bits set around the flag. -/
def unalignedSurrounded : Memory :=
  (unalignedTwins.describe 21 unalignedMemory).write 0x9001 (0x5A0FF05A : UInt32)

theorem unaligned_flavours_agree :
    let described := unalignedTwins.describe 21 unalignedMemory
    (21 < 32 ∧ Property.offset .willow described 0x2000 = -3 ∧
      (Willow.mask described 0x2000).toNat = 2 ^ 21 ∧ Property.offset .oak described 0x1000 = -3 ∧
      ∀ flavour,
        Memory.EqOn (unalignedTwins.flag flavour).descriptor described unalignedSurrounded) ∧
      get .willow unalignedSurrounded 0x2000 0x9004 = get .oak unalignedSurrounded 0x1000 0x9004 ∧
      set .willow unalignedSurrounded 0x2000 0x9004 true
        = set .oak unalignedSurrounded 0x1000 0x9004 true ∧
      ∀ flavour, (unalignedTwins.flag flavour).read (unalignedTwins.assignAll
        [(.oak, true), (.willow, false), (.oak, true)] unalignedSurrounded) = true := by
  intro described
  have hbit : 21 < 32 := by decide
  have hwillow : Property.offset .willow described 0x2000 = -3 := by decide +kernel
  have hmask : (Willow.mask described 0x2000).toNat = 2 ^ 21 := by decide +kernel
  have hoak : Property.offset .oak described 0x1000 = -3 := by decide +kernel
  have hother (flavour : Flavour) :
      Memory.EqOn (unalignedTwins.flag flavour).descriptor described unalignedSurrounded := by
    have hbefore : (unalignedTwins.flag flavour).descriptor.start.toNat
        + (unalignedTwins.flag flavour).descriptor.size
          ≤ (Stored.extent UInt32 0x9001).start.toNat := by
      cases flavour <;> decide +kernel
    have hapart : (unalignedTwins.flag flavour).descriptor.Disjoint (Stored.extent UInt32 0x9001) :=
      Region.disjoint_of_end_le hbefore (by decide)
    exact (Memory.eqOn_write hapart.symm).symm
  have hapart (flavour : Flavour) : (bitPlace (Flag.wordAt 0x9004 (-3)) 21).1
      ∉ (unalignedTwins.flag flavour).descriptor := by
    cases flavour <;> decide +kernel
  obtain ⟨hget, hset, hrun⟩ := flavours_agree unalignedTwins unalignedMemory (-3) hbit hwillow
    hmask hoak hother
  exact ⟨⟨hbit, hwillow, hmask, hoak, hother⟩, hget, hset true, fun flavour =>
    (hrun hapart [(.oak, true), (.willow, false), (.oak, true)] flavour).2⟩

end Twins

end HostBridge.PackedBool
