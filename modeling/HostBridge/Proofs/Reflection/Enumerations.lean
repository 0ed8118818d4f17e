import HostBridge.Proofs.Memory.Arrays
import HostBridge.Reflection.Enumeration
import Mathlib.Algebra.Group.Int.Defs

namespace HostBridge.Enumeration

variable {memory : Memory} {enumeration : Address}

/-- Whether values are laid out in memory as the array of an enumeration's names. -/
inductive LaidOut {α : Type} [Stored α] (flavour : Flavour) (memory : Memory)
    (enumeration : Address) (values : List α) : Prop where
  | intro {array : HostArray} (hnames : names flavour memory enumeration = array)
      (hholds : array.Holds memory values)

/-- The signed number that a word stands for in two's complement. -/
def twosComplement (word : UInt64) : Int :=
  if word.toNat < 2 ^ 63 then word.toNat else word.toNat - 2 ^ 64

theorem toInt_toInt64 (word : UInt64) : word.toInt64.toInt = twosComplement word := by
  rw [← Int64.toInt_toBitVec, UInt64.toBitVec_toInt64, BitVec.toInt_eq_toNat_cond, twosComplement,
    UInt64.toNat_toBitVec]
  refine ite_congr (propext ?_) (fun _ => rfl) fun _ => rfl
  omega

/-- The entries of an enumeration, with their values as integers. -/
def numbers (flavour : Flavour) (memory : Memory) (enumeration : Address) :
    List (HostName × Int) :=
  (entries flavour memory enumeration).map fun entry => (entry.1, entry.2.toInt)

theorem numbers_oak {pairs : List (HostName × UInt64)} (h : LaidOut .oak memory enumeration pairs) :
    numbers .oak memory enumeration = pairs.map fun pair => (pair.1, twosComplement pair.2) := by
  obtain ⟨hnames, hholds⟩ := h
  rw [numbers, entries, hnames, HostArray.elements_of_holds hholds, List.map_map]
  apply List.map_congr_left
  intro pair _
  simp [toInt_toInt64]

theorem numbers_willow {hostNames : List HostName}
    (h : LaidOut .willow memory enumeration hostNames) :
    numbers .willow memory enumeration
      = hostNames.zipIdx.map fun pair => (pair.1, (pair.2 : Int)) := by
  obtain ⟨hnames, hholds⟩ := h
  have hlength := HostArray.length_of_holds hholds
  rw [numbers, entries, hnames, HostArray.elements_of_holds hholds]
  apply List.ext_getElem
  · simp
  · intro position hposition _
    have hinside : position < hostNames.length := by simpa using hposition
    have hnumber : (Int64.ofNat position).toInt = position :=
      Int64.toInt_ofNat_of_lt (by omega)
    simp [hnumber]

section Layout

variable {α : Type} [Stored α]

def header (flavour : Flavour) (enumeration : Address) : Address :=
  Entity.enum.address flavour .names enumeration

/-- Stores values at an address and makes them the array of an enumeration's names. -/
def layOut (flavour : Flavour) (enumeration data : Address) (values : List α) (memory : Memory) :
    Memory :=
  (memory.store data (values.flatMap Stored.encode)).write (header flavour enumeration)
    (⟨data, Int32.ofNat values.length, Int32.ofNat values.length⟩ : HostArray)

theorem laidOut_layOut [Stored.Exact α] {flavour : Flavour} {data : Address} {values : List α}
    (hdata : data ≠ 0) (hcount : values.length < 2 ^ 31)
    (hsize : Stored.width α * values.length ≤ UInt64.size)
    (hapart : (Stored.extent HostArray (header flavour enumeration)).Disjoint
      ⟨data, Stored.width α * values.length⟩) (memory : Memory) :
    LaidOut flavour (layOut flavour enumeration data values memory) enumeration values := by
  refine .intro (Memory.read_write_self (by decide)) ?_
  have hstored := HostArray.holds_store memory hdata (Int32.ofNat values.length) hcount hsize
  rw [HostArray.Holds, if_neg hdata] at hstored ⊢
  exact ⟨hstored.1, hstored.2.congr (Memory.eqOn_write hapart).symm⟩

end Layout

/-- The elements of an array are as many as its count says, and none without storage or with a
negative count. Exactly they have addresses, each the one of the array's storage and as many widths
as its index, and they are what is read there. They are given values if and only if the array holds
these. So the entries of an enumeration are the pairs, or the names, that are laid out as its
array, with the numbers that the words beside the names stand for, or else with the positions of the
names. -/
theorem arrays_read_back {α : Type} [Stored α] (array : HostArray) (memory : Memory)
    (enumeration : Address) :
    (∀ index : Nat,
      ((array.address? (Stored.width α) index).isSome ↔
        index < (array.elements memory : List α).length) ∧
      ∀ place, array.address? (Stored.width α) index = some place →
        place = array.data + UInt64.ofNat (index * Stored.width α) ∧
        (array.data.toNat + array.length * Stored.width α ≤ 2 ^ 64 →
          place.toNat = array.data.toNat + index * Stored.width α) ∧
        (array.elements memory : List α)[index]? = some (memory.read place)) ∧
    (array.data ≠ 0 → (array.elements memory : List α).length = max array.count.toInt 0) ∧
    (array.data = 0 ∨ array.count ≤ 0 → (array.elements memory : List α) = []) ∧
    (∀ [Stored.Exact α] (values : List α),
      array.elements memory = values ↔ array.Holds memory values) ∧
    (∀ pairs : List (HostName × UInt64), LaidOut .oak memory enumeration pairs →
      numbers .oak memory enumeration = pairs.map fun pair => (pair.1, twosComplement pair.2)) ∧
    ∀ hostNames : List HostName, LaidOut .willow memory enumeration hostNames →
      numbers .willow memory enumeration
        = hostNames.zipIdx.map fun pair => (pair.1, (pair.2 : Int)) := by
  have hlength := array.length_elements (α := α) memory
  refine ⟨fun index => ⟨HostArray.isSome_address?_iff memory, ?_⟩, ?_, ?_,
    fun _ => HostArray.elements_eq_iff_holds, fun _ => numbers_oak, fun _ => numbers_willow⟩
  · intro place hplace
    obtain ⟨hindex, heq⟩ := (HostArray.address?_eq_some_iff memory).mp hplace
    refine ⟨heq, ?_, HostArray.getElem?_elements hplace⟩
    intro hstorage
    obtain ⟨-, hinside⟩ := (HostArray.lt_length_elements_iff memory).mp hindex
    rw [heq, HostArray.toNat_address hstorage hinside]
  · intro hdata
    rw [hlength, if_neg hdata, HostArray.length, Int.toNat_eq_max]
  · intro hnone
    apply List.length_eq_zero_iff.mp
    rw [hlength]
    split
    · rfl
    next hdata =>
      have hcount := Int32.le_iff_toInt_le.mp (hnone.resolve_left hdata)
      exact Int.toNat_of_nonpos hcount

/-- Names with a small value, with the least signed one and with minus one. -/
def signedPairs : List (HostName × UInt64) :=
  [(⟨10, 0⟩, 5), (⟨11, 0⟩, 0x8000000000000000), (⟨12, 1⟩, 0xFFFFFFFFFFFFFFFF)]

def twoNames : List HostName := [⟨7, 0⟩, ⟨5, 2⟩]

def signedMemory : Memory := layOut .oak 0x1000 0x2000 signedPairs Memory.zeroed

def namedMemory : Memory := layOut .willow 0x1000 (header .willow 0x1000 + 16) twoNames Memory.zeroed

theorem entries_of_laid_out_names :
    let stored : HostArray := ⟨0x2000, 3, 3⟩
    let negative : HostArray := ⟨0x2000, -4, 3⟩
    let elements (array : HostArray) : List (HostName × UInt64) := array.elements signedMemory
    (stored.address? 16 2 = some 0x2020 ∧ stored.data.toNat + stored.length * 16 ≤ 2 ^ 64 ∧
      (0x2020 : Address).toNat = stored.data.toNat + 2 * 16 ∧
      (elements stored)[2]? = some (signedMemory.read 0x2020)) ∧
    (stored.data ≠ 0 ∧ (elements stored).length = max stored.count.toInt 0) ∧
    (negative.count ≤ 0 ∧ elements negative = []) ∧
    (stored.Holds signedMemory signedPairs ∧ elements stored = signedPairs) ∧
    (LaidOut .oak signedMemory 0x1000 signedPairs ∧
      numbers .oak signedMemory 0x1000
        = [(⟨10, 0⟩, 5), (⟨11, 0⟩, -0x8000000000000000), (⟨12, 1⟩, -1)]) ∧
    LaidOut .willow namedMemory 0x1000 twoNames ∧
      numbers .willow namedMemory 0x1000 = [(⟨7, 0⟩, 0), (⟨5, 2⟩, 1)] := by
  intro stored negative elements
  have hoak : LaidOut .oak signedMemory 0x1000 signedPairs :=
    laidOut_layOut (by decide) (by decide) (by decide)
      (Region.disjoint_of_end_le (by decide +kernel) (by decide +kernel)) Memory.zeroed
  have hwillow : LaidOut .willow namedMemory 0x1000 twoNames :=
    laidOut_layOut (by decide +kernel) (by decide) (by decide)
      (Region.disjoint_of_end_le (by decide +kernel) (by decide +kernel)) Memory.zeroed
  have hholds : stored.Holds signedMemory signedPairs := by
    have hnames : names .oak signedMemory 0x1000 = stored := Memory.read_write_self (by decide)
    obtain ⟨hsame, hheld⟩ := hoak
    rwa [← hnames.symm.trans hsame] at hheld
  have hplace : stored.address? 16 2 = some 0x2020 := by decide
  have hstorage : stored.data.toNat + stored.length * 16 ≤ 2 ^ 64 := by decide
  have hdata : stored.data ≠ 0 := by decide
  have hcount : negative.count ≤ 0 := by decide
  obtain ⟨hindex, hlength, -, hvalues, hnumbers, -⟩ :=
    arrays_read_back (α := HostName × UInt64) stored signedMemory 0x1000
  obtain ⟨-, -, hnone, -, -, -⟩ :=
    arrays_read_back (α := HostName × UInt64) negative signedMemory 0x1000
  obtain ⟨-, -, -, -, -, hpositions⟩ :=
    arrays_read_back (α := HostName) HostArray.empty namedMemory 0x1000
  obtain ⟨-, haddress, helement⟩ := (hindex 2).2 0x2020 hplace
  exact ⟨⟨hplace, hstorage, haddress hstorage, helement⟩, ⟨hdata, hlength hdata⟩,
    ⟨hcount, hnone (.inr hcount)⟩, ⟨hholds, (hvalues signedPairs).mpr hholds⟩,
    ⟨hoak, hnumbers signedPairs hoak⟩, hwillow, hpositions twoNames hwillow⟩

end HostBridge.Enumeration
