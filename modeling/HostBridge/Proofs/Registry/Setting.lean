import HostBridge.Proofs.Registry.Lifetime

/-!
# Setting weak references

`Registry.reference` answers a reference with the memory after it, or an error. Here a reference is
set in place, step by step: what has been written stays written if a later step fails, as it would
in the host. It comes to the same: a request does all that it is to do, or nothing.
-/

namespace HostBridge.Registry

open ChunkMap (internalIndex oneChunk)

structure Target where
  weak : WeakReference
  memory : Memory

/-- Steps on a target; what is written before an error stays. -/
abbrev Steps := EStateM Error Target

def load {α : Type} [Stored α] (place : Address) : Steps α :=
  fun target => .ok (target.memory.read place) target

def put {α : Type} [Stored α] (place : Address) (value : α) : Steps Unit :=
  fun target => .ok () { target with memory := target.memory.write place value }

def masterPlace (header : Address) : Address :=
  memberAddress .registry .masterSerialNumber header

def serialPlace (memory : Memory) (header : Address) (slot : Nat) : Address :=
  memberAddress .registryItem .serialNumber (itemAddress memory header slot)

/-- The serial at a place, which gets the next one of a counter if there is none. -/
def installSerial (place counter : Address) : Steps Int32 := do
  let existing : Int32 ← load place
  if existing != 0 then
    return existing
  else
    -- The counter stays bumped, whatever becomes of the slot.
    let master : Int32 ← load counter
    put counter (master + 1)
    let current : Int32 ← load place
    if current == 0 then
      put place (master + 1)
      return master + 1
    else
      return current

def assignSerial (registry : Registry) (slot : Nat) : Steps Int32 := do
  let memory := (← get).memory
  if itemAddress memory registry.header slot = 0 then
    throw (.outOfRange slot (registry.size memory))
  else
    installSerial (serialPlace memory registry.header slot) (masterPlace registry.header)

def setReference (registry : Registry) (object? : Option Address) : Steps Unit := do
  match registry.flavour, object? with
  | .willow, _ => throw registry.noWeakReferences
  | .oak, none => modify ({ · with weak := WeakReference.null })
  | .oak, some object =>
    let target ← get
    let index := internalIndex target.memory object
    let size := registry.size target.memory
    let slot := index.toInt.toNat
    if index < 0 then
      throw (.outOfRange (UInt64.size - 1) size)
    else if size ≤ slot then
      throw (.outOfRange slot size)
    else
      let serial ← registry.assignSerial slot
      modify ({ · with weak := ⟨index, serial⟩ })

open EStateM (run_bind run_get)

theorem run_load {α : Type} [Stored α] (place : Address) (target : Target) :
    (load place : Steps α).run target = .ok (target.memory.read place) target := rfl

theorem run_put {α : Type} [Stored α] (place : Address) (value : α) (target : Target) :
    (put place value).run target
      = .ok () { target with memory := target.memory.write place value } := rfl

def installed (memory : Memory) (place counter : Address) : Int32 × Memory :=
  let existing : Int32 := memory.read place
  let fresh : Int32 := memory.read counter + 1
  let bumped := memory.write counter fresh
  let current : Int32 := bumped.read place
  if existing != 0 then (existing, memory)
  else if current == 0 then (fresh, bumped.write place fresh)
  else (current, bumped)

theorem allocateSerial_eq (registry : Registry) (memory : Memory) (slot : Nat) :
    registry.allocateSerial memory slot =
      if itemAddress memory registry.header slot = 0 then
        .error (.outOfRange slot (registry.size memory))
      else .ok (installed memory (serialPlace memory registry.header slot)
        (masterPlace registry.header)) := by
  rw [allocateSerial]
  dsimp only
  refine if_congr Iff.rfl rfl ?_
  rw [installed, apply_ite Except.ok, apply_ite Except.ok, serialPlace, masterPlace, masterSerial]

theorem run_installSerial (place counter : Address) (target : Target) :
    (installSerial place counter).run target =
      .ok (installed target.memory place counter).1
        { target with memory := (installed target.memory place counter).2 } := by
  rw [installSerial, installed, run_bind, run_load]
  dsimp only
  split
  · rfl
  · rw [run_bind, run_load]
    dsimp only
    rw [run_bind, run_put]
    dsimp only
    rw [run_bind, run_load]
    dsimp only
    split
    · rfl
    · rfl

theorem run_assignSerial (registry : Registry) (slot : Nat) (target : Target) :
    (registry.assignSerial slot).run target =
      match registry.allocateSerial target.memory slot with
      | .ok (serial, memory) => .ok serial { target with memory := memory }
      | .error error => .error error target := by
  rw [assignSerial, allocateSerial_eq, run_bind, run_get]
  dsimp only
  split
  · rfl
  · exact run_installSerial _ _ target

theorem run_setReference (registry : Registry) (object? : Option Address) (target : Target) :
    (registry.setReference object?).run target =
      match registry.reference target.memory object? with
      | .ok (weak, memory) => .ok () ⟨weak, memory⟩
      | .error error => .error error target := by
  obtain ⟨flavour, header⟩ := registry
  unfold setReference reference
  cases flavour with
  | willow => rfl
  | oak =>
      cases object? with
      | none => rfl
      | some object =>
          dsimp only [internalIndex]
          rw [run_bind, run_get]
          dsimp only
          split
          · rfl
          · split
            · rfl
            · rw [run_bind, run_assignSerial]
              generalize allocateSerial _ _ _ = outcome
              cases outcome with
              | error error => rfl
              | ok assigned => rfl

/-- Whether a slot gets its serial, or keeps the one that it has, and nothing else is written. -/
structure Installs (memory : Memory) (place counter : Address) (serial : Int32) (after : Memory) :
    Prop where
  serial_eq : serial = after.read place
  frame : ∀ address, address ∉ Stored.extent Int32 place → address ∉ Stored.extent Int32 counter →
    after.byte address = memory.byte address
  kept : memory.read place ≠ (0 : Int32) → after = memory
  fresh : memory.read place = (0 : Int32) →
    (Stored.extent Int32 counter).Disjoint (Stored.extent Int32 place) →
    serial = memory.read counter + 1 ∧ after.read counter = serial

theorem installs_installed (memory : Memory) (place counter : Address) :
    Installs memory place counter (installed memory place counter).1
      (installed memory place counter).2 := by
  have hwidth : Stored.width Int32 ≤ UInt64.size := by decide
  rw [installed]
  generalize hfresh : (memory.read counter : Int32) + 1 = fresh
  split
  next hassigned =>
    have hne : memory.read place ≠ (0 : Int32) := bne_iff_ne.mp hassigned
    exact ⟨rfl, fun _ _ _ => rfl, fun _ => rfl, fun hzero => absurd hzero hne⟩
  next hunassigned =>
    have hzero : memory.read place = (0 : Int32) := by simpa using hunassigned
    split
    next hcurrent =>
      refine ⟨(Memory.read_write_self hwidth).symm, fun address hplace hcounter => ?_,
        fun hne => absurd hzero hne, fun _ hdisjoint => ⟨hfresh.symm, ?_⟩⟩
      · rw [Memory.byte_write_of_not_mem hplace, Memory.byte_write_of_not_mem hcounter]
      · rw [Memory.read_write_of_disjoint hdisjoint.symm]
        exact Memory.read_write_self hwidth
    next hcurrent =>
      refine ⟨rfl, fun address _ hcounter => Memory.byte_write_of_not_mem hcounter,
        fun hne => absurd hzero hne, fun _ hdisjoint => absurd ?_ hcurrent⟩
      rw [Memory.read_write_of_disjoint hdisjoint, hzero]
      rfl

/-- Whether the slot that an object says it is in is live and has an item. -/
def HasSlot (registry : Registry) (memory : Memory) (object : Address) : Prop :=
  0 ≤ internalIndex memory object ∧
    (internalIndex memory object).toInt.toNat < registry.size memory ∧
    itemAddress memory registry.header (internalIndex memory object).toInt.toNat ≠ 0

instance (registry : Registry) (memory : Memory) (object : Address) :
    Decidable (registry.HasSlot memory object) :=
  inferInstanceAs (Decidable (_ ∧ _ ∧ _))

theorem reference_some (header : Address) (memory : Memory) (object : Address) :
    let registry : Registry := ⟨.oak, header⟩
    let index := internalIndex memory object
    let slot := index.toInt.toNat
    registry.reference memory (some object) =
      if registry.HasSlot memory object then
        let place := serialPlace memory header slot
        let (serial, after) := installed memory place (masterPlace header)
        .ok (⟨index, serial⟩, after)
      else
        .error
          (.outOfRange (if index < 0 then UInt64.size - 1 else slot) (registry.size memory)) := by
  intro registry index slot
  change (if index < 0 then _ else if registry.size memory ≤ slot then _ else
    (registry.allocateSerial memory slot).map _) = _
  by_cases hnegative : index < 0
  · have hnone : ¬registry.HasSlot memory object := fun h => Int32.not_lt.mpr h.1 hnegative
    rw [if_pos hnegative, if_neg hnone, if_pos hnegative]
  · rw [if_neg hnegative, if_neg hnegative]
    by_cases hpast : registry.size memory ≤ slot
    · have hnone : ¬registry.HasSlot memory object := fun h => Nat.not_lt.mpr hpast h.2.1
      rw [if_pos hpast, if_neg hnone]
      rfl
    · rw [if_neg hpast, allocateSerial_eq]
      by_cases hitem : itemAddress memory registry.header slot = 0
      · have hnone : ¬registry.HasSlot memory object := fun h => h.2.2 hitem
        rw [if_pos hitem, if_neg hnone]
        rfl
      · have hsome : registry.HasSlot memory object :=
          ⟨Int32.not_lt.mp hnegative, Nat.lt_of_not_le hpast, hitem⟩
        rw [if_neg hitem, if_pos hsome]
        rfl

/-- A request fails and changes nothing, or clears the reference and changes no memory, or sets the
reference to the slot that the object says it is in and to the serial of this slot. Only the serial
and the master counter may have changed then, and they have only if the slot had no serial. -/
theorem setReference_all_or_nothing (registry : Registry) (object? : Option Address)
    (target : Target)
    (hmaster : registry.flavour = .oak →
      masterSerial target.memory registry.header < Int32.maxValue) :
    let memory := target.memory
    let outcome := (registry.setReference object?).run target
    let counter := masterPlace registry.header
    (outcome = match registry.reference memory object? with
      | .ok (weak, after) => .ok () ⟨weak, after⟩
      | .error error => .error error target) ∧
    (registry.flavour = .willow →
      outcome = .error (.unsupported "weak object pointers" .willow) target) ∧
    (registry.flavour = .oak → object? = none → outcome = .ok () ⟨⟨-1, 0⟩, memory⟩) ∧
    ∀ object, registry.flavour = .oak → object? = some object →
      let index := internalIndex memory object
      let slot := index.toInt.toNat
      let place := serialPlace memory registry.header slot
      (¬registry.HasSlot memory object →
        let past := if index < 0 then UInt64.size - 1 else slot
        outcome = .error (.outOfRange past (registry.size memory)) target) ∧
      (registry.HasSlot memory object → ∃ after,
        outcome = .ok () after ∧ after.weak = ⟨index, after.memory.read place⟩ ∧
          Installs memory place counter after.weak.serial after.memory ∧
          (memory.read place = (0 : Int32) →
            (Stored.extent Int32 counter).Disjoint (Stored.extent Int32 place) →
            after.weak.serial.toInt = (masterSerial memory registry.header).toInt + 1)) := by
  obtain ⟨flavour, header⟩ := registry
  intro memory outcome counter
  have houtcome := run_setReference ⟨flavour, header⟩ object? target
  refine ⟨houtcome, ?_, ?_, ?_⟩
  · rintro rfl
    exact houtcome
  · rintro rfl rfl
    exact houtcome
  · rintro object rfl rfl index slot place
    rw [reference_some] at houtcome
    refine ⟨fun hnone => ?_, fun hsome => ?_⟩
    · rw [if_neg hnone] at houtcome
      exact houtcome
    · rw [if_pos hsome] at houtcome
      have hinstalls := installs_installed memory place counter
      refine ⟨_, houtcome, ?_, hinstalls, fun hzero hdisjoint => ?_⟩
      · exact congrArg (WeakReference.mk index) hinstalls.serial_eq
      · refine (congrArg Int32.toInt (hinstalls.fresh hzero hdisjoint).1).trans ?_
        exact ChunkMap.toInt_add_one (hmaster rfl)

/-- One object, in a slot without a serial. -/
def oneObject : Memory :=
  oneChunk.run oneChunk.blank [.resize 1, .place 0 0x3000]

theorem setReference_oneObject :
    let index := internalIndex oneObject 0x3000
    let place := serialPlace oneObject 0x1000 index.toInt.toNat
    masterSerial oneObject 0x1000 < Int32.maxValue ∧
    ∃ after, (oneChunk.registry.setReference (some 0x3000)).run ⟨⟨5, 6⟩, oneObject⟩ = .ok () after ∧
      after.weak.index = index ∧
      after.weak.serial.toInt = (masterSerial oneObject 0x1000).toInt + 1 ∧
      ∀ address, address ∉ Stored.extent Int32 place →
        address ∉ Stored.extent Int32 (masterPlace 0x1000) →
        after.memory.byte address = oneObject.byte address := by
  intro index place
  have hmaster : masterSerial oneObject 0x1000 < Int32.maxValue := by decide +kernel
  obtain ⟨-, -, -, hobject⟩ := setReference_all_or_nothing oneChunk.registry (some 0x3000)
    ⟨⟨5, 6⟩, oneObject⟩ fun _ => hmaster
  obtain ⟨after, hafter, hweak, hinstalls, hserial⟩ :=
    (hobject 0x3000 rfl rfl).2 (by decide +kernel)
  have hunassigned : oneObject.read place = (0 : Int32) := by decide +kernel
  have hdisjoint :
      (Stored.extent Int32 (masterPlace 0x1000)).Disjoint (Stored.extent Int32 place) :=
    Region.disjoint_of_end_le (by decide +kernel) (by decide +kernel)
  exact ⟨hmaster, after, hafter, congrArg WeakReference.index hweak, hserial hunassigned hdisjoint,
    hinstalls.frame⟩

end HostBridge.Registry
