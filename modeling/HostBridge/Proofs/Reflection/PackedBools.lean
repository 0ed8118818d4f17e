import HostBridge.Proofs.Memory.Bits
import HostBridge.Reflection.PackedBool
import Mathlib.Data.Finset.Image
import Mathlib.Data.Fintype.Prod
import Mathlib.Data.Set.Pairwise.Basic

namespace HostBridge.PackedBool

structure BitField where
  start : Address
  width : Nat
  /-- The bits that make the flag. -/
  mask : Nat
  /-- The bits that a true value sets. -/
  raised : Nat
  width_le : width ≤ UInt64.size
  mask_lt : mask < 2 ^ (8 * width)

namespace BitField

variable {field : BitField} {place : Address × Fin 8}

/-- The places in memory of the bits that make the flag. -/
def places (field : BitField) : Finset (Address × Fin 8) :=
  ((Finset.univ : Finset (Fin field.width × Fin 8)).filter fun bit =>
    field.mask.testBit (8 * bit.1 + bit.2)).image
      fun bit => (field.start + UInt64.ofNat bit.1, bit.2)

/-- Whether a true value sets some of the bits that make the flag, and no others. -/
def Raises (field : BitField) : Prop :=
  field.raised ≠ 0 ∧ field.raised &&& field.mask = field.raised

instance (field : BitField) : Decidable field.Raises :=
  inferInstanceAs (Decidable (_ ∧ _))

theorem Raises.testBit_mask (h : field.Raises) {i : Nat} (hi : field.raised.testBit i) :
    field.mask.testBit i := by
  rw [← h.2, Nat.testBit_and, Bool.and_eq_true] at hi
  exact hi.2

theorem mem_places :
    place ∈ field.places ↔ (place.1 - field.start).toNat < field.width ∧
      field.mask.testBit (Memory.bitIndex field.start place) := by
  simp only [places, Finset.mem_image, Finset.mem_filter, Finset.mem_univ, true_and]
  constructor
  · rintro ⟨⟨distance, bit⟩, hmask, rfl⟩
    have hdistance : (field.start + UInt64.ofNat distance - field.start).toNat = distance :=
      Memory.toNat_add_ofNat_sub _ (Nat.lt_of_lt_of_le distance.isLt field.width_le)
    simp only [Memory.bitIndex, hdistance]
    exact ⟨distance.isLt, hmask⟩
  · rintro ⟨hinside, hmask⟩
    exact ⟨(⟨_, hinside⟩, place.2), hmask, Prod.ext (Memory.add_ofNat_sub ..) rfl⟩

theorem exists_place {i : Nat} (h : field.mask.testBit i) :
    ∃ place ∈ field.places, Memory.bitIndex field.start place = i := by
  have hi : i < 8 * field.width := by
    refine Nat.lt_of_not_le fun hle => ?_
    rw [Nat.testBit_lt_two_pow
      (Nat.lt_of_lt_of_le field.mask_lt (Nat.pow_le_pow_right (by decide) hle))] at h
    cases h
  have hwidth : i / 8 < field.width := Nat.div_lt_of_lt_mul hi
  have hdistance : (field.start + UInt64.ofNat (i / 8) - field.start).toNat = i / 8 :=
    Memory.toNat_add_ofNat_sub _ (Nat.lt_of_lt_of_le hwidth field.width_le)
  let place : Address × Fin 8 :=
    (field.start + UInt64.ofNat (i / 8), ⟨i % 8, Nat.mod_lt _ (by decide)⟩)
  have hindex : Memory.bitIndex field.start place = i := by
    rw [Memory.bitIndex, hdistance]
    exact Nat.div_add_mod i 8
  refine ⟨place, mem_places.mpr ⟨?_, ?_⟩, hindex⟩
  · rw [hdistance]
    exact hwidth
  · rw [hindex]
    exact h

end BitField

structure Flag where
  flavour : Flavour
  property : Address
  container : Address
  deriving DecidableEq

namespace Flag

def read (flag : Flag) (memory : Memory) : Bool :=
  get flag.flavour memory flag.property flag.container

def assign (flag : Flag) (value : Bool) (memory : Memory) : Memory :=
  set flag.flavour memory flag.property flag.container value

def assignAll (assignments : List (Flag × Bool)) (memory : Memory) : Memory :=
  assignments.foldl (fun memory (flag, value) => flag.assign value memory) memory

/-- The bits of a flag: those of a byte on an oak host, and those of a word on a willow host, where
a true value sets all of them. -/
def field (flag : Flag) (memory : Memory) : BitField :=
  match flag.flavour with
  | .willow =>
    { start := flag.container
        + UInt64.ofInt (Property.offset .willow memory flag.property).toInt
      width := 4
      mask := (Willow.mask memory flag.property).toNat
      raised := (Willow.mask memory flag.property).toNat
      width_le := by decide
      mask_lt := UInt32.toNat_lt _ }
  | .oak =>
    { start := flag.container
        + UInt64.ofInt (Property.offset .oak memory flag.property).toInt
        + (Oak.byteOffset memory flag.property).toUInt64
      width := 1
      mask := (Oak.mask memory flag.property).toNat
      raised := (Oak.byteMask memory flag.property).toNat
      width_le := by decide
      mask_lt := UInt8.toNat_lt _ }

def descriptor (flag : Flag) : Region :=
  ⟨flag.property, (Entity.boolProperty.layout flag.flavour).size⟩

variable {flag : Flag} {memory memory' : Memory} {place : Address × Fin 8}

theorem read_eq_number (flag : Flag) (memory : Memory) :
    flag.read memory = (memory.number (flag.field memory).start (flag.field memory).width
      &&& (flag.field memory).mask != 0) := by
  obtain ⟨flavour, property, container⟩ := flag
  rw [Bool.eq_iff_iff, bne_iff_ne]
  cases flavour with
  | willow =>
      refine bne_iff_ne.trans (not_congr ?_)
      rw [← UInt32.toNat_inj, UInt32.toNat_and, Memory.toNat_read_word]
      rfl
  | oak =>
      refine bne_iff_ne.trans (not_congr ?_)
      rw [← UInt8.toNat_inj, UInt8.toNat_and, Memory.toNat_byte]
      rfl

theorem testBit_and_complement (number : Nat) {mask : Nat} (width : Nat) (hmask : mask < 2 ^ width)
    {i : Nat} (hi : i < width) :
    (number &&& (2 ^ width - 1 - mask)).testBit i = (number.testBit i && !mask.testBit i) := by
  have hcomplement : 2 ^ width - 1 - mask = 2 ^ width - (mask + 1) := by omega
  rw [Nat.testBit_and, hcomplement, Nat.testBit_two_pow_sub_succ hmask, decide_eq_true hi,
    Bool.true_and]

/-- Setting a flag clears its bits, sets those that a true value sets, and writes back the rest. -/
theorem assign_eq_store (flag : Flag) (value : Bool) (memory : Memory) :
    let field := flag.field memory
    ∃ number < 2 ^ (8 * field.width),
      flag.assign value memory = memory.store field.start (Bytes.ofValue field.width number) ∧
      ∀ i < 8 * field.width, number.testBit i =
        ((memory.number field.start field.width).testBit i && !field.mask.testBit i
          || value && field.raised.testBit i) := by
  obtain ⟨flavour, property, container⟩ := flag
  cases flavour with
  | willow =>
      intro field
      have hword : (memory.read field.start : UInt32).toNat = memory.number field.start 4 :=
        Memory.toNat_read_word memory field.start
      refine ⟨_, UInt32.toNat_lt _, rfl, fun i hi => ?_⟩
      change i < 32 at hi
      change _ = ((memory.number field.start 4).testBit i && !field.mask.testBit i
        || value && field.mask.testBit i)
      rw [← hword]
      cases value with
      | true =>
          have hraise : ∀ bit mask : Bool, (bit || mask) = (bit && !mask || true && mask) := by
            decide
          rw [if_pos rfl, UInt32.toNat_or, Nat.testBit_or]
          exact hraise _ _
      | false =>
          rw [if_neg Bool.false_ne_true, UInt32.toNat_and, UInt32.toNat_not, Bool.false_and,
            Bool.or_false]
          exact testBit_and_complement _ 32 (UInt32.toNat_lt _) hi
  | oak =>
      intro field
      have hbyte : (memory.byte field.start).toNat = memory.number field.start 1 :=
        Memory.toNat_byte memory field.start
      refine ⟨_, UInt8.toNat_lt _, rfl, fun i hi => ?_⟩
      change i < 8 at hi
      change _ = ((memory.number field.start 1).testBit i && !field.mask.testBit i
        || value && field.raised.testBit i)
      rw [← hbyte, UInt8.toNat_or, UInt8.toNat_and, UInt8.toNat_not, Nat.testBit_or]
      refine congrArg₂ (· || ·) (testBit_and_complement _ 8 (UInt8.toNat_lt _) hi) ?_
      cases value with
      | true => rfl
      | false => exact Nat.zero_testBit i

theorem bit_assign (hraises : (flag.field memory).Raises) (value : Bool)
    (place : Address × Fin 8) :
    (flag.assign value memory).bit place =
      if place ∈ (flag.field memory).places then
        value && (flag.field memory).raised.testBit
          (Memory.bitIndex (flag.field memory).start place)
      else memory.bit place := by
  obtain ⟨number, hnumber, hassign, hbits⟩ := flag.assign_eq_store value memory
  generalize flag.field memory = field at *
  rw [hassign, Memory.bit_store field.width_le hnumber]
  by_cases hinside : (place.1 - field.start).toNat < field.width
  · rw [if_pos hinside, hbits _ (Memory.bitIndex_lt hinside), Memory.testBit_number hinside]
    -- A bit outside the mask is written back as it was read.
    by_cases hmask : field.mask.testBit (Memory.bitIndex field.start place)
    · rw [if_pos (BitField.mem_places.mpr ⟨hinside, hmask⟩), hmask, Bool.not_true, Bool.and_false,
        Bool.false_or]
    · have hraised : field.raised.testBit (Memory.bitIndex field.start place) = false :=
        Bool.eq_false_of_not_eq_true fun hraised => hmask (hraises.testBit_mask hraised)
      rw [if_neg fun hmem => hmask (BitField.mem_places.mp hmem).2, hraised,
        Bool.eq_false_of_not_eq_true hmask, Bool.not_false, Bool.and_true, Bool.and_false,
        Bool.or_false]
  · rw [if_neg hinside, if_neg fun hmem => hinside (BitField.mem_places.mp hmem).1]

theorem read_iff :
    flag.read memory = true ↔ ∃ place ∈ (flag.field memory).places, memory.bit place = true := by
  rw [read_eq_number, bne_iff_ne]
  generalize flag.field memory = field
  constructor
  · intro hne
    obtain ⟨i, hi⟩ := Nat.exists_testBit_of_ne_zero hne
    rw [Nat.testBit_and, Bool.and_eq_true] at hi
    obtain ⟨place, hmem, rfl⟩ := field.exists_place hi.2
    rw [Memory.testBit_number (BitField.mem_places.mp hmem).1] at hi
    exact ⟨place, hmem, hi.1⟩
  · rintro ⟨place, hmem, hbit⟩ hzero
    obtain ⟨hinside, hmask⟩ := BitField.mem_places.mp hmem
    have hboth : (memory.number field.start field.width &&& field.mask).testBit
        (Memory.bitIndex field.start place) = true := by
      rw [Nat.testBit_and, Memory.testBit_number hinside, hbit, hmask]
      rfl
    rw [hzero, Nat.zero_testBit] at hboth
    cases hboth

theorem read_congr (hfield : flag.field memory = flag.field memory')
    (hbits : ∀ place ∈ (flag.field memory).places, memory.bit place = memory'.bit place) :
    flag.read memory = flag.read memory' := by
  rw [Bool.eq_iff_iff, read_iff, read_iff, ← hfield]
  refine exists_congr fun place => and_congr_right fun hmem => ?_
  rw [hbits place hmem]

theorem read_assign (hraises : (flag.field memory).Raises) {value : Bool}
    (hfield : flag.field (flag.assign value memory) = flag.field memory) :
    flag.read (flag.assign value memory) = value := by
  have hread : flag.read (flag.assign value memory) = true ↔
      ∃ place ∈ (flag.field memory).places, (flag.assign value memory).bit place = true := by
    rw [read_iff, hfield]
  cases value with
  | true =>
      obtain ⟨i, hi⟩ := Nat.exists_testBit_of_ne_zero hraises.1
      obtain ⟨place, hmem, rfl⟩ := (flag.field memory).exists_place (hraises.testBit_mask hi)
      refine hread.mpr ⟨place, hmem, ?_⟩
      rw [bit_assign hraises, if_pos hmem, hi]
      rfl
  | false =>
      refine Bool.eq_false_of_not_eq_true fun htrue => ?_
      obtain ⟨place, hmem, hbit⟩ := hread.mp htrue
      rw [bit_assign hraises, if_pos hmem] at hbit
      cases hbit

theorem field_congr (h : Memory.EqOn flag.descriptor memory memory') :
    flag.field memory = flag.field memory' := by
  obtain ⟨flavour, property, container⟩ := flag
  have hread {α : Type} [Stored α] (offset : Nat)
      (hend : offset + Stored.width α ≤ (Entity.boolProperty.layout flavour).size) :
      (memory.read (property + UInt64.ofNat offset) : α)
        = memory'.read (property + UInt64.ofNat offset) := h.read_part hend
  cases flavour with
  | willow =>
      have hoffset : Property.offset .willow memory property
          = Property.offset .willow memory' property := hread _ (by decide)
      have hmask : Willow.mask memory property = Willow.mask memory' property :=
        hread _ (by decide)
      simp only [field, hoffset, hmask]
  | oak =>
      have hoffset : Property.offset .oak memory property
          = Property.offset .oak memory' property := hread _ (by decide)
      have hbyteOffset : Oak.byteOffset memory property = Oak.byteOffset memory' property :=
        hread _ (by decide)
      have hmask : Oak.mask memory property = Oak.mask memory' property := hread _ (by decide)
      have hbyteMask : Oak.byteMask memory property = Oak.byteMask memory' property :=
        hread _ (by decide)
      simp only [field, hoffset, hbyteOffset, hmask, hbyteMask]

theorem toNat_one_shiftLeft (bit : UInt8) :
    ((1 : UInt8) <<< (bit &&& 7)).toNat = 2 ^ (bit.toNat % 8) := by
  have hbit : (bit &&& 7).toNat = bit.toNat % 8 := by
    rw [UInt8.toNat_and]
    exact Nat.and_two_pow_sub_one_eq_mod bit.toNat 3
  have hlt : bit.toNat % 8 < 8 := Nat.mod_lt _ (by decide)
  have hpow : 2 ^ (bit.toNat % 8) < 2 ^ 8 := Nat.pow_lt_pow_right (by decide) hlt
  rw [UInt8.toNat_shiftLeft, hbit, Nat.mod_eq_of_lt hlt, UInt8.toNat_one, Nat.one_shiftLeft,
    Nat.mod_eq_of_lt hpow]

section Describe

variable (memory : Memory) (property : Address) (byteOffset bit : UInt8)

theorem disjoint_bytes (property : Address) {first second : Nat} (hlt : first < second)
    (hend : second + 1 ≤ 2 ^ 64) :
    (Stored.extent UInt8 (property + UInt64.ofNat first)).Disjoint
      (Stored.extent UInt8 (property + UInt64.ofNat second)) :=
  @Region.part_disjoint ⟨property, 0⟩ first 1 second 1 hlt hend

theorem mask_describe :
    Oak.mask (Oak.describe memory property byteOffset bit) property = 1 <<< (bit &&& 7) :=
  Memory.read_write_self (by decide)

theorem byteMask_describe :
    Oak.byteMask (Oak.describe memory property byteOffset bit) property = 1 <<< (bit &&& 7) := by
  refine (Memory.read_write_of_disjoint (disjoint_bytes property ?_ ?_).symm).trans
    (Memory.read_write_self (by decide))
  · decide
  · decide

theorem byteOffset_describe :
    Oak.byteOffset (Oak.describe memory property byteOffset bit) property = byteOffset := by
  refine (Memory.read_write_of_disjoint (disjoint_bytes property ?_ ?_).symm).trans
    ((Memory.read_write_of_disjoint (disjoint_bytes property ?_ ?_).symm).trans
      (Memory.read_write_self (by decide)))
  · decide
  · decide
  · decide
  · decide

/-- A flag that is described as one bit of a byte sets this bit and no others. -/
theorem raises_describe (container : Address) :
    let described := Oak.describe memory property byteOffset bit
    Oak.byteOffset described property = byteOffset ∧
      ((⟨.oak, property, container⟩ : Flag).field described).Raises := by
  intro described
  have hmask : Oak.mask described property = 1 <<< (bit &&& 7) := mask_describe ..
  have hbyteMask : Oak.byteMask described property = 1 <<< (bit &&& 7) := byteMask_describe ..
  refine ⟨byteOffset_describe .., ?_, ?_⟩
  · simp only [field, hbyteMask, toNat_one_shiftLeft]
    exact Nat.pos_iff_ne_zero.mp (Nat.two_pow_pos _)
  · simp only [field, hbyteMask, hmask]
    exact Nat.and_self _

end Describe

/-- Whether no two flags have a bit in common, and none has one in a descriptor. -/
structure Independent (flags : Set Flag) (memory : Memory) : Prop where
  disjoint : flags.PairwiseDisjoint fun flag => (flag.field memory).places
  raises : ∀ flag ∈ flags, (flag.field memory).Raises
  apart : ∀ flag ∈ flags, ∀ other ∈ flags, ∀ place ∈ (flag.field memory).places,
    place.1 ∉ other.descriptor

namespace Independent

variable {flags : Set Flag} {other : Flag}

theorem field_assign (h : Independent flags memory) (hflag : flag ∈ flags) (hother : other ∈ flags)
    (value : Bool) : other.field (flag.assign value memory) = other.field memory := by
  refine field_congr fun address haddress => Memory.byte_eq_of_bits fun bit => ?_
  rw [bit_assign (h.raises flag hflag), if_neg]
  exact fun hmem => h.apart flag hflag other hother _ hmem haddress

theorem assign (h : Independent flags memory) (hflag : flag ∈ flags) (value : Bool) :
    Independent flags (flag.assign value memory) where
  disjoint left hleft right hright hne := by
    have hdisjoint := h.disjoint hleft hright hne
    simp only [Function.onFun] at hdisjoint ⊢
    rw [h.field_assign hflag hleft, h.field_assign hflag hright]
    exact hdisjoint
  raises other hother := by
    rw [h.field_assign hflag hother]
    exact h.raises other hother
  apart left hleft right hright := by
    rw [h.field_assign hflag hleft]
    exact h.apart left hleft right hright

theorem read_assign (h : Independent flags memory) (hflag : flag ∈ flags) (hother : other ∈ flags)
    (value : Bool) :
    other.read (flag.assign value memory) = if other = flag then value else other.read memory := by
  split
  next heq =>
    subst heq
    exact Flag.read_assign (h.raises other hother) (h.field_assign hother hother value)
  next hne =>
    have hfield := h.field_assign hflag hother value
    refine read_congr hfield fun place hmem => ?_
    rw [hfield] at hmem
    rw [bit_assign (h.raises flag hflag), if_neg]
    exact Finset.disjoint_left.mp (h.disjoint hother hflag hne) hmem

theorem read_assignAll (h : Independent flags memory) {assignments : List (Flag × Bool)}
    (hflags : ∀ assignment ∈ assignments, assignment.1 ∈ flags) (hflag : flag ∈ flags) :
    flag.read (assignAll assignments memory)
      = (assignments.reverse.lookup flag).getD (flag.read memory) := by
  induction assignments generalizing memory with
  | nil => rfl
  | cons assignment rest ih =>
      obtain ⟨assigned, value⟩ := assignment
      obtain ⟨hassigned, hrest⟩ := List.forall_mem_cons.mp hflags
      have hread := h.read_assign hassigned hflag value
      refine (ih (h.assign hassigned value) hrest).trans ?_
      rw [hread]
      exact (getD_lookup_reverse_cons ..).symm

theorem bit_assignAll (h : Independent flags memory) {assignments : List (Flag × Bool)}
    (hflags : ∀ assignment ∈ assignments, assignment.1 ∈ flags)
    (houtside : ∀ assignment ∈ assignments, place ∉ (assignment.1.field memory).places) :
    (assignAll assignments memory).bit place = memory.bit place := by
  induction assignments generalizing memory with
  | nil => rfl
  | cons assignment rest ih =>
      obtain ⟨assigned, value⟩ := assignment
      obtain ⟨hassigned, hrest⟩ := List.forall_mem_cons.mp hflags
      obtain ⟨hfirst, hothers⟩ := List.forall_mem_cons.mp houtside
      refine (ih (h.assign hassigned value) hrest fun other hmem => ?_).trans ?_
      · rw [h.field_assign hassigned (hrest other hmem)]
        exact hothers other hmem
      · rw [bit_assign (h.raises assigned hassigned), if_neg hfirst]

end Independent

/-- However often flags are set that have no bits in common, each reads as it was last set, and no
other bit of memory changes. A flag that is described as one bit of a byte can be one of them. -/
theorem flags_independent {flags : Set Flag} (h : Independent flags memory)
    (assignments : List (Flag × Bool))
    (hflags : ∀ assignment ∈ assignments, assignment.1 ∈ flags) :
    let final := assignAll assignments memory
    (∀ flag ∈ flags,
      flag.read final = (assignments.reverse.lookup flag).getD (flag.read memory)) ∧
    (∀ place,
      (∀ assignment ∈ assignments, place ∉ (assignment.1.field memory).places) →
        final.bit place = memory.bit place) ∧
    ∀ property container byteOffset bit,
      let described := Oak.describe memory property byteOffset bit
      Oak.byteOffset described property = byteOffset ∧
        ((⟨.oak, property, container⟩ : Flag).field described).Raises :=
  ⟨fun _ hflag => h.read_assignAll hflags hflag, fun _ houtside => h.bit_assignAll hflags houtside,
    fun property container byteOffset bit =>
      raises_describe memory property byteOffset bit container⟩

/-- The descriptors of one bit of a byte and of some bits of two words that both reach into it. -/
def sharedByte : Memory :=
  let atOffset (flavour : Flavour) (property : Address) (offset : Int32) (memory : Memory) :=
    memory.write (Entity.property.address flavour .offsetInternal property) offset
  let masked (property : Address) (mask : UInt32) (memory : Memory) :=
    memory.write (Entity.boolProperty.address .willow .fieldMask property) mask
  Oak.describe (Memory.zeroed |> atOffset .oak 0x1000 2 |> atOffset .willow 0x2000 1
    |> masked 0x2000 0xF00001 |> atOffset .willow 0x3000 (-1) |> masked 0x3000 0x701) 0x1000 1 3

def sharers : List Flag :=
  [⟨.oak, 0x1000, 0x9000⟩, ⟨.willow, 0x2000, 0x9000⟩, ⟨.willow, 0x3000, 0x9003⟩]

theorem independent_sharers : Independent { flag | flag ∈ sharers } sharedByte where
  disjoint left hleft right hright hne := by
    have hdisjoint : ∀ left ∈ sharers, ∀ right ∈ sharers, left ≠ right →
        Disjoint (left.field sharedByte).places (right.field sharedByte).places := by
      decide +kernel
    exact hdisjoint left hleft right hright hne
  raises := by
    have hraises : ∀ flag ∈ sharers, (flag.field sharedByte).Raises := by decide +kernel
    exact hraises
  apart left hleft right hright place hmem := by
    have hapart : ∀ left ∈ sharers, ∀ right ∈ sharers,
        ((left.field sharedByte).places.filter fun place => place.1 ∈ right.descriptor) = ∅ := by
      decide +kernel
    exact Finset.filter_eq_empty_iff.mp (hapart left hleft right hright) hmem

/-- The first word's bits are set and cleared again, with the other flags set in between. -/
def takingTurns : List (Flag × Bool) :=
  [(⟨.willow, 0x2000, 0x9000⟩, true), (⟨.oak, 0x1000, 0x9000⟩, true),
    (⟨.willow, 0x3000, 0x9003⟩, true), (⟨.willow, 0x2000, 0x9000⟩, false)]

theorem read_after_turns :
    let final := assignAll takingTurns sharedByte
    Independent { flag | flag ∈ sharers } sharedByte ∧
      sharers.map (·.read final) = [true, false, true] ∧
      ∀ bit, final.bit (0x9004, bit) = sharedByte.bit (0x9004, bit) := by
  intro final
  obtain ⟨hread, hbits, -⟩ := flags_independent independent_sharers takingTurns (by decide)
  have hreads : sharers.map (·.read final) = sharers.map fun flag =>
      (takingTurns.reverse.lookup flag).getD (flag.read sharedByte) :=
    List.map_congr_left hread
  refine ⟨independent_sharers, hreads.trans (by decide +kernel), fun bit => hbits _ ?_⟩
  have houtside : ∀ assignment ∈ takingTurns, ∀ bit,
      (0x9004, bit) ∉ (assignment.1.field sharedByte).places := by decide +kernel
  exact fun assignment hmem => houtside assignment hmem bit

end Flag

end HostBridge.PackedBool
