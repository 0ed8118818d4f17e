import HostBridge.Memory.Scalar
import HostBridge.Proofs.Memory.Region
import HostBridge.Reflection.Property
import Mathlib.Algebra.Group.Int.Defs

/-!
# Elements of properties

The address of an element is computed in signed 64-bit words, but the numbers that describe a
property have 32 bits, so no step of the computation overflows. Elements that have room for their
values lie side by side then, and each is a variable of its own: it has the value that it was last
given.
-/

namespace HostBridge.Property

theorem signed64?_of_natAbs_lt {value : Int} (h : value.natAbs < 2 ^ 63) :
    signed64? value = some value := by
  rw [signed64?, Int64.toInt_minValue, Int64.toInt_maxValue, if_pos]
  omega

theorem toInt_index {index : Nat} (hindex : index < 2 ^ 31) :
    (UInt64.ofNat index).toInt64.toInt = index := by
  rw [UInt64.toInt64_ofNat', Int64.toInt_ofNat_of_lt (by omega)]

theorem natAbs_mul_le {index : Nat} (hindex : index < 2 ^ 31) (size : Int32) :
    (index * size.toInt).natAbs ≤ 2 ^ 62 := by
  have hlow := size.le_toInt
  have hhigh := size.toInt_lt
  have hsize : size.toInt.natAbs ≤ 2 ^ 31 := by omega
  calc (index * size.toInt).natAbs
      = index * size.toInt.natAbs := Int.natAbs_mul ..
    _ ≤ 2 ^ 31 * 2 ^ 31 := Nat.mul_le_mul (Nat.le_of_lt hindex) hsize

theorem natAbs_mul_add_lt {index : Nat} (hindex : index < 2 ^ 31) (size offset : Int32) :
    (index * size.toInt + offset.toInt).natAbs < 2 ^ 63 := by
  have hproduct := natAbs_mul_le hindex size
  have hlow := offset.le_toInt
  have hhigh := offset.toInt_lt
  omega

theorem elementOffset?_eq {index : Nat} (hindex : index < 2 ^ 31) (size offset : Int32) :
    elementOffset? index size.toInt offset.toInt = some (index * size.toInt + offset.toInt) := by
  have hproduct : (index * size.toInt).natAbs < 2 ^ 63 :=
    Nat.lt_of_le_of_lt (natAbs_mul_le hindex size) (by decide)
  rw [elementOffset?, toInt_index hindex, signed64?_of_natAbs_lt hproduct]
  exact signed64?_of_natAbs_lt (natAbs_mul_add_lt hindex size offset)

theorem toNat_add_ofInt (address : Address) (distance : Int) :
    ((address + UInt64.ofInt distance).toNat : Int) = (address.toNat + distance) % 2 ^ 64 := by
  rw [UInt64.toNat_add, UInt64.ofInt, UInt64.toNat_ofNat']
  omega

theorem ofInt_natCast (distance : Nat) : UInt64.ofInt distance = UInt64.ofNat distance := by
  apply UInt64.toNat_inj.mp
  rw [UInt64.ofInt, UInt64.toNat_ofNat', UInt64.toNat_ofNat']
  omega

section Address

variable (flavour : Flavour) (memory : Memory) (property container : Address) (index : Nat)

theorem dimension_lt : dimension flavour memory property < 2 ^ 31 := by
  have := (arrayDim flavour memory property).toInt_lt
  rw [dimension]
  omega

/-- The signed words in which an address is computed never overflow. -/
theorem valueAddress_eq :
    valueAddress flavour memory property container index =
      if index < dimension flavour memory property then
        .ok (container + UInt64.ofInt (index * (elementSize flavour memory property).toInt
          + (offset flavour memory property).toInt))
      else .error (.outOfRange index (dimension flavour memory property)) := by
  rw [valueAddress]
  by_cases hinside : index < dimension flavour memory property
  · have hindex := Nat.lt_trans hinside (dimension_lt flavour memory property)
    simp only [elementOffset?_eq hindex]
    rw [if_neg (Nat.not_le.mpr hinside), if_pos hinside]
  · rw [if_pos (Nat.le_of_not_lt hinside), if_neg hinside]

/-- An element has an address if and only if its index is inside the dimension, and the address is
the one that the integers give, modulo 2 ^ 64. The index and every intermediate result are the same
numbers as signed 64-bit words. -/
theorem valueAddress_exact :
    let bound := max (arrayDim flavour memory property).toInt 0
    let size := (elementSize flavour memory property).toInt
    let first := (offset flavour memory property).toInt
    let answer := valueAddress flavour memory property container index
    (index < bound → ∃ address, answer = .ok address ∧
      (address.toNat : Int) = (container.toNat + index * size + first) % 2 ^ 64) ∧
    (bound ≤ index → answer = .error (.outOfRange index bound.toNat)) ∧
    (index < bound → (UInt64.ofNat index).toInt64.toInt = index ∧
      signed64? (index * size) = some (index * size) ∧
      signed64? (index * size + first) = some (index * size + first)) := by
  intro bound size first answer
  have hbound : bound = dimension flavour memory property := (Int.toNat_eq_max _).symm
  have hlt := dimension_lt flavour memory property
  have hanswer := valueAddress_eq flavour memory property container index
  refine ⟨fun hinside => ?_, fun houtside => ?_, fun hinside => ?_⟩
  · have hindex : index < dimension flavour memory property := by omega
    refine ⟨_, hanswer.trans (if_pos hindex), ?_⟩
    rw [toNat_add_ofInt, Int.add_assoc]
  · have hindex : ¬index < dimension flavour memory property := by omega
    refine hanswer.trans ((if_neg hindex).trans ?_)
    rw [hbound, Int.toNat_natCast]
  · have hindex : index < 2 ^ 31 := by omega
    have hproduct := natAbs_mul_le hindex (elementSize flavour memory property)
    have hsum := natAbs_mul_add_lt hindex (elementSize flavour memory property)
      (offset flavour memory property)
    exact ⟨toInt_index hindex, signed64?_of_natAbs_lt (Nat.lt_of_le_of_lt hproduct (by decide)),
      signed64?_of_natAbs_lt hsum⟩

end Address

/-- Where the elements of a property lie. -/
structure Elements where
  first : Address
  size : Int
  count : Nat
  size_le : size ≤ 2 ^ 31
  count_le : count ≤ 2 ^ 31

namespace Elements

variable {elements : Elements} {index other : Nat}

def address (elements : Elements) (index : Nat) : Address :=
  elements.first + UInt64.ofInt (index * elements.size)

def cell (elements : Elements) (index : Nat) : Region :=
  ⟨elements.address index, elements.size.toNat⟩

theorem cell_eq_part (hsize : 0 ≤ elements.size) (index : Nat) :
    elements.cell index =
      (⟨elements.first, 0⟩ : Region).part (index * elements.size.toNat) elements.size.toNat := by
  have hdistance : (index * elements.size : Int) = (index * elements.size.toNat : Nat) := by
    rw [Int.natCast_mul, Int.toNat_of_nonneg hsize]
  rw [cell, address, hdistance, ofInt_natCast]
  rfl

theorem cell_disjoint_of_lt (hsize : 0 ≤ elements.size) (hlt : index < other)
    (hother : other < elements.count) :
    (elements.cell index).Disjoint (elements.cell other) := by
  have hwidth : elements.size.toNat ≤ 2 ^ 31 := Int.toNat_le.mpr elements.size_le
  have hcount : other + 1 ≤ 2 ^ 31 := Nat.le_trans hother elements.count_le
  rw [cell_eq_part hsize, cell_eq_part hsize]
  refine Region.part_disjoint ?_ ?_
  · rw [← Nat.succ_mul]
    exact Nat.mul_le_mul_right _ hlt
  · -- No cell ends past 2 ^ 62, so none of them comes round to the first one again.
    rw [← Nat.succ_mul]
    exact Nat.le_trans (Nat.mul_le_mul hcount hwidth) (by decide)

theorem cell_disjoint (hsize : 0 ≤ elements.size) (hindex : index < elements.count)
    (hother : other < elements.count) (hne : index ≠ other) :
    (elements.cell index).Disjoint (elements.cell other) := by
  rcases Nat.lt_or_gt_of_ne hne with hlt | hgt
  · exact cell_disjoint_of_lt hsize hlt hother
  · exact (cell_disjoint_of_lt hsize hgt hindex).symm

theorem extent_subset_cell {α : Type} [Stored α] (hwidth : (Stored.width α : Int) ≤ elements.size)
    (index : Nat) : Stored.extent α (elements.address index) ⊆ elements.cell index := by
  intro address hmem
  refine Nat.lt_of_lt_of_le hmem ?_
  change Stored.width α ≤ elements.size.toNat
  omega

end Elements

structure Variable where
  flavour : Flavour
  property : Address
  container : Address
  deriving DecidableEq

namespace Variable

variable {array : Variable} {memory memory' : Memory} {index other : Nat} {α : Type} [Stored α]

def elements (array : Variable) (memory : Memory) : Elements where
  first := array.container + UInt64.ofInt (offset array.flavour memory array.property).toInt
  size := (elementSize array.flavour memory array.property).toInt
  count := dimension array.flavour memory array.property
  size_le := Int.le_of_lt (Int32.toInt_lt _)
  count_le := Nat.le_of_lt (dimension_lt _ _ _)

def descriptor (array : Variable) : Region :=
  ⟨array.property, (Entity.property.layout array.flavour).size⟩

def read (array : Variable) (memory : Memory) (index : Nat) : Except Error α :=
  readValue array.flavour memory array.property array.container index

def assign (array : Variable) (index : Nat) (value : α) : EStateM Error Memory Unit := do
  let memory ← get
  match valueAddress array.flavour memory array.property array.container index with
  | .ok address => set (memory.write address value)
  | .error error => throw error

/-- The memory that steps end in, whether or not they fail. -/
def memoryAfter (steps : EStateM Error Memory Unit) (memory : Memory) : Memory :=
  match steps.run memory with
  | .ok _ after => after
  | .error _ after => after

def assignAll (array : Variable) (assignments : List (Nat × α)) (memory : Memory) : Memory :=
  assignments.foldl (fun memory (index, value) => memoryAfter (array.assign index value) memory)
    memory

theorem valueAddress_elements (array : Variable) (memory : Memory) (index : Nat) :
    valueAddress array.flavour memory array.property array.container index =
      if index < (array.elements memory).count then .ok ((array.elements memory).address index)
      else .error (.outOfRange index (array.elements memory).count) := by
  have haddress : array.container
      + UInt64.ofInt (index * (elementSize array.flavour memory array.property).toInt
        + (offset array.flavour memory array.property).toInt)
      = (array.elements memory).address index := by
    rw [Elements.address, elements, UInt64.ofInt_add, UInt64.add_assoc, UInt64.add_comm
      (UInt64.ofInt (offset array.flavour memory array.property).toInt)]
  rw [valueAddress_eq, haddress]
  rfl

theorem run_assign_eq_writeValue (array : Variable) (index : Nat) (value : α) (memory : Memory) :
    (array.assign index value).run memory =
      match writeValue array.flavour memory array.property array.container index value with
      | .ok after => .ok () after
      | .error error => .error error memory := by
  rw [assign, EStateM.run_bind, EStateM.run_get, writeValue]
  dsimp only
  cases valueAddress array.flavour memory array.property array.container index with
  | ok address => rfl
  | error error => rfl

theorem run_assign (array : Variable) (index : Nat) (value : α) (memory : Memory) :
    (array.assign index value).run memory =
      if index < (array.elements memory).count then
        .ok () (memory.write ((array.elements memory).address index) value)
      else .error (.outOfRange index (array.elements memory).count) memory := by
  rw [run_assign_eq_writeValue, writeValue, valueAddress_elements]
  by_cases hindex : index < (array.elements memory).count
  · rw [if_pos hindex, if_pos hindex]
    rfl
  · rw [if_neg hindex, if_neg hindex]
    rfl

theorem memoryAfter_assign (array : Variable) (index : Nat) (value : α) (memory : Memory) :
    memoryAfter (array.assign index value) memory =
      if index < (array.elements memory).count then
        memory.write ((array.elements memory).address index) value
      else memory := by
  rw [memoryAfter, run_assign]
  by_cases hindex : index < (array.elements memory).count
  · rw [if_pos hindex, if_pos hindex]
  · rw [if_neg hindex, if_neg hindex]

theorem read_of_lt (hindex : index < (array.elements memory).count) :
    (array.read memory index : Except Error α)
      = .ok (memory.read ((array.elements memory).address index)) := by
  rw [read, readValue, valueAddress_elements, if_pos hindex]
  rfl

theorem elements_congr (h : Memory.EqOn array.descriptor memory memory') :
    array.elements memory = array.elements memory' := by
  obtain ⟨flavour, property, container⟩ := array
  have hread (label : Label) (hend : (Entity.property.layout flavour).offset label
      + Stored.width Int32 ≤ (Entity.property.layout flavour).size) :
      (memory.read (Entity.property.address flavour label property) : Int32)
        = memory'.read (Entity.property.address flavour label property) :=
    h.read_part hend
  have hoffset : offset flavour memory property = offset flavour memory' property :=
    hread .offsetInternal (by cases flavour <;> decide)
  have hsize : elementSize flavour memory property = elementSize flavour memory' property :=
    hread .elementSize (by cases flavour <;> decide)
  have hdim : arrayDim flavour memory property = arrayDim flavour memory' property :=
    hread .arrayDim (by cases flavour <;> decide)
  simp only [elements, dimension, hoffset, hsize, hdim]

theorem valueAddress_congr (array : Variable) (h : Memory.EqOn array.descriptor memory memory')
    (index : Nat) :
    valueAddress array.flavour memory array.property array.container index
      = valueAddress array.flavour memory' array.property array.container index := by
  rw [valueAddress_elements, valueAddress_elements, elements_congr h]

/-- Whether the elements have room for values of a width, and none of them overlaps the
descriptor. -/
structure HasRoom (array : Variable) (width : Nat) (memory : Memory) : Prop where
  width_le : (width : Int) ≤ (array.elements memory).size
  apart : ∀ index < (array.elements memory).count,
    ((array.elements memory).cell index).Disjoint array.descriptor

namespace HasRoom

variable [Stored.Exact α]

theorem elements_write (h : array.HasRoom (Stored.width α) memory)
    (hindex : index < (array.elements memory).count) (value : α) :
    array.elements (memory.write ((array.elements memory).address index) value)
      = array.elements memory :=
  elements_congr (Memory.eqOn_write
    ((h.apart index hindex).mono_left (Elements.extent_subset_cell h.width_le index)))

theorem elements_assign (h : array.HasRoom (Stored.width α) memory) (index : Nat) (value : α) :
    array.elements (memoryAfter (array.assign index value) memory) = array.elements memory := by
  rw [memoryAfter_assign]
  split
  next hindex => exact h.elements_write hindex value
  next => rfl

theorem assign (h : array.HasRoom (Stored.width α) memory) (index : Nat) (value : α) :
    array.HasRoom (Stored.width α) (memoryAfter (array.assign index value) memory) where
  width_le := by
    rw [h.elements_assign]
    exact h.width_le
  apart := by
    rw [h.elements_assign]
    exact h.apart

theorem elements_assignAll (h : array.HasRoom (Stored.width α) memory)
    (assignments : List (Nat × α)) :
    array.elements (array.assignAll assignments memory) = array.elements memory := by
  induction assignments generalizing memory with
  | nil => rfl
  | cons assignment rest ih =>
      obtain ⟨index, value⟩ := assignment
      exact (ih (h.assign index value)).trans (h.elements_assign index value)

theorem read_assign (h : array.HasRoom (Stored.width α) memory)
    (hother : other < (array.elements memory).count) (index : Nat) (value : α) :
    ((memoryAfter (array.assign index value) memory).read ((array.elements memory).address other) : α)
      = if other = index then value else memory.read ((array.elements memory).address other) := by
  have hwidth : Stored.width α ≤ UInt64.size := by
    have := h.width_le
    have := (array.elements memory).size_le
    have : UInt64.size = 2 ^ 64 := rfl
    omega
  rw [memoryAfter_assign]
  by_cases heq : other = index
  · subst heq
    rw [if_pos hother, if_pos rfl]
    exact Memory.read_write_self hwidth
  · rw [if_neg heq]
    split
    next hindex =>
      have hsize : 0 ≤ (array.elements memory).size :=
        Int.le_trans (Int.natCast_nonneg _) h.width_le
      have hcells := Elements.cell_disjoint hsize hindex hother (Ne.symm heq)
      exact Memory.read_write_of_disjoint
        ((hcells.mono_left (Elements.extent_subset_cell h.width_le index)).mono_right
          (Elements.extent_subset_cell h.width_le other))
    next => rfl

theorem read_assignAll (h : array.HasRoom (Stored.width α) memory) (assignments : List (Nat × α))
    (hindex : index < (array.elements memory).count) :
    ((array.assignAll assignments memory).read ((array.elements memory).address index) : α)
      = (assignments.reverse.lookup index).getD
          (memory.read ((array.elements memory).address index)) := by
  induction assignments generalizing memory with
  | nil => rfl
  | cons assignment rest ih =>
      obtain ⟨assigned, value⟩ := assignment
      have hsame := h.elements_assign assigned value
      have hrest := ih (h.assign assigned value)
      rw [hsame, h.read_assign hindex] at hrest
      exact (hrest hindex).trans (getD_lookup_reverse_cons ..).symm

end HasRoom

/-- However often elements are written, at whatever indices, each reads as it was last written. A
write outside the dimension fails and changes nothing, and one inside it changes nothing outside its
own element. -/
theorem elements_independent (array : Variable) (scalar : Scalar) {memory : Memory}
    (h : array.HasRoom scalar.size memory) (assignments : List (Nat × scalar.Carrier)) :
    let elements := array.elements memory
    let final := array.assignAll assignments memory
    (∀ index (value : scalar.Carrier),
      let outcome := (array.assign index value).run final
      (outcome = match writeValue array.flavour final array.property array.container index value with
        | .ok after => .ok () after
        | .error error => .error error final) ∧
      (elements.count ≤ index → outcome = .error (.outOfRange index elements.count) final) ∧
      (index < elements.count → ∃ after, outcome = .ok () after ∧
        ∀ address, address ∉ elements.cell index → after.byte address = final.byte address)) ∧
    ∀ index < elements.count,
      array.read final index = .ok ((assignments.reverse.lookup index).getD
        (memory.read (elements.address index))) := by
  intro elements final
  have hsame : array.elements final = elements := h.elements_assignAll assignments
  refine ⟨fun index value => ?_, fun index hindex => ?_⟩
  · intro outcome
    have houtcome := array.run_assign index value final
    rw [hsame] at houtcome
    refine ⟨array.run_assign_eq_writeValue index value final, fun houtside => ?_, fun hinside => ?_⟩
    · exact houtcome.trans (if_neg (Nat.not_lt.mpr houtside))
    · refine ⟨_, houtcome.trans (if_pos hinside), fun address haddress => ?_⟩
      exact Memory.byte_write_of_not_mem fun hmem =>
        haddress (Elements.extent_subset_cell h.width_le index address hmem)
  · rw [read_of_lt (by rw [hsame]; exact hindex), hsame, h.read_assignAll assignments hindex]

/-- Three elements with a spare byte each, at addresses that are not aligned; the first one lies
before the container. -/
def spacedArray : Variable := ⟨.oak, 0x1000, 0x9003⟩

def spacedMemory : Memory :=
  let put (label : Label) (value : Int32) (memory : Memory) : Memory :=
    memory.write (Entity.property.address .oak label 0x1000) value
  Memory.zeroed |> put .arrayDim 3 |> put .elementSize 5 |> put .offsetInternal (-4)

theorem hasRoom_spacedArray : spacedArray.HasRoom Scalar.f32.size spacedMemory where
  width_le := by decide +kernel
  apart index hindex := by
    let elements := spacedArray.elements spacedMemory
    have hcount : elements.count = 3 := by decide +kernel
    have hbehind : ∀ index < 3, spacedArray.descriptor.start.toNat + spacedArray.descriptor.size
        ≤ (elements.cell index).start.toNat ∧
        (elements.cell index).start.toNat + (elements.cell index).size ≤ 2 ^ 64 := by
      decide +kernel
    obtain ⟨hstart, hspace⟩ := hbehind index (hcount ▸ hindex)
    exact (Region.disjoint_of_end_le hstart hspace).symm

/-- Numbers that are no numbers, with payloads; one goes to the second element in place of another,
and one to no element. -/
def payloads : List (Nat × Scalar.Carrier .f32) :=
  [(1, ⟨0x7FC01234⟩), (3, ⟨0x7FC00000⟩), (0, ⟨0xFF800001⟩), (1, ⟨0x7F800001⟩)]

theorem payloads_read_back :
    let final := spacedArray.assignAll payloads spacedMemory
    spacedArray.HasRoom Scalar.f32.size spacedMemory ∧
      spacedArray.read final 0 = .ok (⟨0xFF800001⟩ : Binary32) ∧
      spacedArray.read final 1 = .ok (⟨0x7F800001⟩ : Binary32) ∧
      spacedArray.read final 2 = .ok (⟨0⟩ : Binary32) ∧
      ∀ value : Binary32,
        (spacedArray.assign 3 value).run final = .error (.outOfRange 3 3) final := by
  intro final
  have hcount : (spacedArray.elements spacedMemory).count = 3 := by decide +kernel
  obtain ⟨hwrites, hreads⟩ := elements_independent spacedArray .f32 hasRoom_spacedArray payloads
  rw [hcount] at hreads
  refine ⟨hasRoom_spacedArray, ?_, ?_, ?_, fun value => ?_⟩
  · exact (hreads 0 (by decide)).trans (congrArg Except.ok (by decide +kernel))
  · exact (hreads 1 (by decide)).trans (congrArg Except.ok (by decide +kernel))
  · exact (hreads 2 (by decide)).trans (congrArg Except.ok (by decide +kernel))
  · have houtside := (hwrites 3 value).2.1
    rw [hcount] at houtside
    exact houtside (by decide)

end Variable

end HostBridge.Property
