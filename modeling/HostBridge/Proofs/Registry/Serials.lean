import HostBridge.Proofs.Registry.Lifetime

namespace HostBridge

open Registry

namespace ChunkMap

variable {map : ChunkMap} {memory : Memory} {objects : List (Option Address)} {index : Nat}

namespace Contents

/-- Whether contents become others when slots without a serial get one each, in this order. -/
inductive Assigns : Contents → List Nat → Contents → Prop where
  | nil (contents : Contents) : Assigns contents [] contents
  | cons {contents contents' : Contents} {index : Nat} {slots : List Nat}
      (unassigned : contents.serial index = 0) (bounded : 0 ≤ contents.master + 1)
      (rest : Assigns (contents.assign index) slots contents') :
      Assigns contents (index :: slots) contents'

variable {contents contents' : Contents} {slots : List Nat}

theorem serial_assign_self (contents : Contents) (index : Nat) :
    (contents.assign index).serial index = contents.master + 1 :=
  Function.update_self ..

theorem serial_assign_of_ne {other : Nat} (h : other ≠ index) :
    (contents.assign index).serial other = contents.serial other :=
  Function.update_of_ne h ..

theorem master_add_one_ne_zero (hmaster : 0 ≤ contents.master) (hbounded : 0 ≤ contents.master + 1) :
    contents.master + 1 ≠ 0 := by
  intro hzero
  have hsucc := toInt_add_one (lt_maxValue hbounded)
  rw [Int32.le_iff_toInt_le] at hmaster
  rw [hzero] at hsucc
  simp only [Int32.toInt_zero] at hmaster hsucc
  omega

theorem Assigns.append {middle : Contents} {slots' : List Nat}
    (h : contents.Assigns slots middle) (h' : middle.Assigns slots' contents') :
    contents.Assigns (slots ++ slots') contents' := by
  induction h with
  | nil => exact h'
  | cons hunassigned hbounded _ ih => exact .cons hunassigned hbounded (ih h')

theorem Assigns.toInt_master (h : contents.Assigns slots contents') :
    contents'.master.toInt = contents.master.toInt + slots.length := by
  induction h with
  | nil contents => exact (Int.add_zero _).symm
  | @cons contents contents' index slots _ hbounded _ ih =>
      calc contents'.master.toInt
          = (contents.master + 1).toInt + slots.length := ih
        _ = contents.master.toInt + 1 + slots.length := by rw [toInt_add_one (lt_maxValue hbounded)]
        _ = contents.master.toInt + (index :: slots).length := by
            rw [List.length_cons]
            omega

theorem Assigns.serial_eq (h : contents.Assigns slots contents') (hmaster : 0 ≤ contents.master)
    (hserial : contents.serial index ≠ 0) : contents'.serial index = contents.serial index := by
  induction h with
  | nil => rfl
  | @cons contents _ assigned _ hunassigned hbounded _ ih =>
      have hne : index ≠ assigned := fun heq => hserial (heq ▸ hunassigned)
      have hkept : (contents.assign assigned).serial index = contents.serial index :=
        serial_assign_of_ne hne
      rw [ih hbounded (hkept.trans_ne hserial), hkept]

theorem Assigns.unassigned (h : contents.Assigns slots contents') (hmaster : 0 ≤ contents.master)
    (hmem : index ∈ slots) : contents.serial index = 0 := by
  induction h with
  | nil => exact absurd hmem List.not_mem_nil
  | @cons contents _ assigned _ hunassigned hbounded _ ih =>
      by_cases heq : index = assigned
      · rw [heq, hunassigned]
      · rw [← serial_assign_of_ne heq, ih hbounded (List.mem_of_ne_of_mem heq hmem)]

theorem Assigns.nodup (h : contents.Assigns slots contents') (hmaster : 0 ≤ contents.master) :
    slots.Nodup := by
  induction h with
  | nil => exact List.nodup_nil
  | @cons contents _ assigned _ _ hbounded hrest ih =>
      -- A slot with a serial gets no other one in the rest.
      refine List.nodup_cons.mpr ⟨fun hmem => ?_, ih hbounded⟩
      have hfresh := hrest.unassigned hbounded hmem
      rw [serial_assign_self] at hfresh
      exact master_add_one_ne_zero hmaster hbounded hfresh

theorem Assigns.toInt_serial (h : contents.Assigns slots contents') (hmaster : 0 ≤ contents.master)
    {k : Nat} (hk : k < slots.length) :
    (contents'.serial slots[k]).toInt = contents.master.toInt + (k + 1) := by
  induction h generalizing k with
  | nil => exact absurd hk (Nat.not_lt_zero k)
  | @cons contents contents' assigned _ _ hbounded hrest ih =>
      have hsucc := toInt_add_one (lt_maxValue hbounded)
      cases k with
      | zero =>
          have hself := serial_assign_self contents assigned
          have hfresh : (contents.assign assigned).serial assigned ≠ 0 :=
            hself.trans_ne (master_add_one_ne_zero hmaster hbounded)
          rw [List.getElem_cons_zero, hrest.serial_eq hbounded hfresh, hself, hsucc]
          omega
      | succ k =>
          have hassign : (contents.assign assigned).master = contents.master + 1 := rfl
          rw [List.getElem_cons_succ, ih hbounded (Nat.lt_of_succ_lt_succ hk), hassign, hsucc]
          omega

theorem Assigns.serial_ne_zero (h : contents.Assigns slots contents') (hmaster : 0 ≤ contents.master)
    (hmem : index ∈ slots) : contents'.serial index ≠ 0 := by
  obtain ⟨k, hk, rfl⟩ := List.getElem_of_mem hmem
  intro hzero
  have hserial := h.toInt_serial hmaster hk
  rw [Int32.le_iff_toInt_le] at hmaster
  rw [hzero] at hserial
  simp only [Int32.toInt_zero] at hmaster hserial
  omega

theorem Assigns.nodup_serials (h : contents.Assigns slots contents') (hmaster : 0 ≤ contents.master) :
    (slots.map contents'.serial).Nodup := by
  rw [List.nodup_iff_pairwise_ne, List.pairwise_map, List.pairwise_iff_getElem]
  intro i j hi hj hlt heq
  have hsame : (contents'.serial slots[i]).toInt = (contents'.serial slots[j]).toInt :=
    congrArg Int32.toInt heq
  rw [h.toInt_serial hmaster hi, h.toInt_serial hmaster hj] at hsame
  omega

end Contents

/-- Takes a reference to an object, or to nothing. A request that fails changes nothing. -/
def take (map : ChunkMap) (object? : Option Address) (memory : Memory) :
    Except Error WeakReference × Memory :=
  match map.registry.reference memory object? with
  | .ok (weak, memory) => (.ok weak, memory)
  | .error error => (.error error, memory)

def slotOf (memory : Memory) (object : Address) : Nat := (internalIndex memory object).toInt.toNat

/-- What a request can do. -/
inductive Takes (map : ChunkMap) (memory : Memory) :
    Option Address → Except Error WeakReference → Memory → Prop where
  | fail (object? : Option Address) (error : Error) : Takes map memory object? (.error error) memory
  | nothing : Takes map memory none (.ok WeakReference.null) memory
  | keep {object : Address} (item : map.HasItem (slotOf memory object))
      (assigned : (map.contents memory).serial (slotOf memory object) ≠ 0) :
      Takes map memory (some object)
        (.ok ⟨internalIndex memory object, (map.contents memory).serial (slotOf memory object)⟩)
        memory
  | assign {object : Address} (item : map.HasItem (slotOf memory object))
      (unassigned : (map.contents memory).serial (slotOf memory object) = 0) :
      Takes map memory (some object)
        (.ok ⟨internalIndex memory object, (map.contents memory).master + 1⟩)
        (map.assign (slotOf memory object) memory)

/-- Whether requests can be served: a registry is intact, its live end is within the chunk table,
and its counter has not turned negative. -/
structure Ready (map : ChunkMap) (memory : Memory) : Prop where
  intact : map.Intact memory
  size_le : map.registry.size memory ≤ map.capacity
  master : 0 ≤ masterSerial memory map.header

theorem Ready.contents_master (hready : map.Ready memory) : 0 ≤ (map.contents memory).master :=
  hready.master

theorem Ready.takes (hready : map.Ready memory) (hapart : map.Apart) (object? : Option Address) :
    map.Takes memory object? (map.take object? memory).1 (map.take object? memory).2 := by
  rw [take]
  cases hreference : map.registry.reference memory object? with
  | error error => exact .fail object? error
  | ok result =>
      obtain ⟨weak, memory'⟩ := result
      cases object? with
      | none =>
          cases hreference
          exact .nothing
      | some object =>
          obtain ⟨hindex, -, -, hitem, hserial⟩ :=
            reference_ok hapart hready.intact hready.size_le hreference
          obtain ⟨index, serial⟩ := weak
          dsimp only at hindex hitem hserial
          subst hindex
          rcases hserial with ⟨hunassigned, rfl, rfl⟩ | ⟨hassigned, rfl, rfl⟩
          · exact .assign hitem hunassigned
          · exact .keep hitem hassigned

section Takes

variable {object? : Option Address} {answer : Except Error WeakReference} {memory' : Memory}
  {object : Address}

theorem Takes.ready (h : map.Takes memory object? answer memory') (hapart : map.Apart)
    (hready : map.Ready memory) (hroom : 0 ≤ masterSerial memory' map.header) :
    map.Ready memory' := by
  cases h with
  | fail | nothing | keep => exact hready
  | assign hitem =>
      refine ⟨hready.intact.assign hapart hitem, ?_, hroom⟩
      rw [ChunkMap.size_eq, contents_assign hapart hitem]
      exact hready.size_le

theorem internalIndex_writeField {field : Field} {object : Address} (hspares : map.Spares object)
    (h : map.HasPart field.part) {value : Int32} (hwidth : field.width = 4) :
    internalIndex (map.writeField field value memory) object = internalIndex memory object := by
  refine Memory.read_write_of_disjoint ?_
  rw [extent_field map hwidth.symm, extent_internalIndex]
  have hobject : (objectRegion object).part 12 4 ⊆ objectRegion object :=
    Region.part_subset (show 12 + 4 ≤ 40 by omega)
  exact ((hspares _ h).mono_left hobject).symm.mono_left (map.fieldRegion_subset field)

theorem Takes.internalIndex_eq (h : map.Takes memory object? answer memory')
    (hspares : map.Spares object) : internalIndex memory' object = internalIndex memory object := by
  cases h with
  | fail | nothing | keep => rfl
  | @assign other hitem =>
      have hserial : map.HasPart (Field.part (.serial (slotOf memory other))) := hitem
      have hmaster : map.HasPart (Field.part .master) := trivial
      rw [ChunkMap.assign, internalIndex_writeField hspares hserial rfl,
        internalIndex_writeField hspares hmaster rfl]

def newlyAssigned (map : ChunkMap) (before after : Memory) : List Nat :=
  (List.range map.capacity).filter fun index =>
    serialAt before map.header index = 0 ∧ serialAt after map.header index ≠ 0

theorem newlyAssigned_self (map : ChunkMap) (memory : Memory) :
    map.newlyAssigned memory memory = [] := by
  rw [newlyAssigned, List.filter_eq_nil_iff]
  intro index _
  simp

theorem newlyAssigned_assign (hapart : map.Apart) (hintact : map.Intact memory)
    (hitem : map.HasItem index) (hserial : (map.contents memory).serial index = 0)
    (hfresh : (map.contents memory).master + 1 ≠ 0) :
    map.newlyAssigned memory (map.assign index memory) = [index] := by
  have hcapacity := lt_capacity_of_hasItem hitem
  have hfilter : map.newlyAssigned memory (map.assign index memory)
      = (List.range map.capacity).filter (· = index) := by
    refine List.filter_congr fun other hother => ?_
    rw [List.mem_range] at hother
    rw [serialAt_eq hapart hintact hother, serialAt_eq hapart (hintact.assign hapart hitem) hother,
      contents_assign hapart hitem, decide_eq_decide]
    by_cases heq : other = index
    · subst heq
      rw [Contents.serial_assign_self]
      exact ⟨fun _ => rfl, fun _ => ⟨hserial, hfresh⟩⟩
    · rw [Contents.serial_assign_of_ne heq]
      exact ⟨fun h => absurd h.1 h.2, fun h => absurd h heq⟩
  rw [hfilter, List.filter_eq, List.count_range, if_pos hcapacity]
  rfl

theorem Takes.assigns (h : map.Takes memory object? answer memory') (hapart : map.Apart)
    (hready : map.Ready memory) (hroom : 0 ≤ masterSerial memory' map.header) :
    (map.contents memory).Assigns (map.newlyAssigned memory memory') (map.contents memory') := by
  cases h with
  | fail | nothing | keep =>
      rw [newlyAssigned_self]
      exact .nil _
  | assign hitem hunassigned =>
      rw [masterSerial_eq, contents_assign hapart hitem] at hroom
      have hfresh := Contents.master_add_one_ne_zero hready.contents_master hroom
      rw [newlyAssigned_assign hapart hready.intact hitem hunassigned hfresh,
        contents_assign hapart hitem]
      exact .cons hunassigned hroom (.nil _)

theorem Takes.answer_eq {weak : WeakReference}
    (h : map.Takes memory (some object) (.ok weak) memory') (hapart : map.Apart)
    (hready : map.Ready memory) (hroom : 0 ≤ masterSerial memory' map.header) :
    weak = ⟨internalIndex memory object, (map.contents memory').serial (slotOf memory object)⟩ ∧
      (map.contents memory').serial (slotOf memory object) ≠ 0 ∧
      slotOf memory object < map.capacity := by
  cases h with
  | keep hitem hassigned => exact ⟨rfl, hassigned, lt_capacity_of_hasItem hitem⟩
  | assign hitem hunassigned =>
      rw [masterSerial_eq, contents_assign hapart hitem] at hroom
      rw [contents_assign hapart hitem, Contents.serial_assign_self]
      exact ⟨rfl, Contents.master_add_one_ne_zero hready.contents_master hroom, lt_capacity_of_hasItem hitem⟩

theorem Takes.eq_of_not_ok (h : map.Takes memory object? answer memory')
    (hnothing : object? = none ∨ ∃ error, answer = .error error) : memory' = memory := by
  cases h with
  | fail | nothing | keep => rfl
  | assign => rcases hnothing with h | ⟨error, h⟩ <;> cases h

end Takes

structure Taking where
  before : Memory
  object? : Option Address
  answer : Except Error WeakReference
  after : Memory

def takings (map : ChunkMap) : Memory → List (Option Address) → List Taking
  | _, [] => []
  | memory, object? :: rest =>
    ⟨memory, object?, (map.take object? memory).1, (map.take object? memory).2⟩
      :: map.takings (map.take object? memory).2 rest

def takeAll (map : ChunkMap) (objects : List (Option Address)) (memory : Memory) : Memory :=
  objects.foldl (fun memory object? => (map.take object? memory).2) memory

/-- The slots that get a serial in the course of requests, in the order in which they do. -/
def assignedSlots (map : ChunkMap) (memory : Memory) (objects : List (Option Address)) : List Nat :=
  (map.takings memory objects).flatMap fun taking => map.newlyAssigned taking.before taking.after

theorem map_takings (map : ChunkMap) (memory : Memory) (objects : List (Option Address)) :
    (map.takings memory objects).map Taking.object? = objects := by
  induction objects generalizing memory with
  | nil => rfl
  | cons object? rest ih => rw [ChunkMap.takings, List.map_cons, ih]

theorem lt_capacity_of_mem_assignedSlots (h : index ∈ map.assignedSlots memory objects) :
    index < map.capacity := by
  obtain ⟨taking, -, hnew⟩ := List.mem_flatMap.mp h
  exact List.mem_range.mp (List.mem_filter.mp hnew).1

/-- Whether the counter does not pass the greatest serial in the course of requests. -/
def HasRoom (map : ChunkMap) (memory : Memory) (objects : List (Option Address)) : Prop :=
  ∀ taking ∈ map.takings memory objects, 0 ≤ masterSerial taking.after map.header

theorem hasRoom_cons {object? : Option Address} {rest : List (Option Address)} :
    map.HasRoom memory (object? :: rest) ↔
      0 ≤ masterSerial (map.take object? memory).2 map.header ∧
        map.HasRoom (map.take object? memory).2 rest :=
  List.forall_mem_cons

theorem Ready.takings (hready : map.Ready memory) (hapart : map.Apart)
    (hroom : map.HasRoom memory objects) :
    ∀ taking ∈ map.takings memory objects, map.Ready taking.before ∧
      map.Takes taking.before taking.object? taking.answer taking.after := by
  induction objects generalizing memory with
  | nil => exact List.forall_mem_nil _
  | cons object? rest ih =>
      obtain ⟨hfirst, hrest⟩ := hasRoom_cons.mp hroom
      have htakes := hready.takes hapart object?
      exact List.forall_mem_cons.mpr
        ⟨⟨hready, htakes⟩, ih (htakes.ready hapart hready hfirst) hrest⟩

theorem Ready.takeAll (hready : map.Ready memory) (hapart : map.Apart)
    (hroom : map.HasRoom memory objects) :
    map.Ready (map.takeAll objects memory) ∧
      (map.contents memory).Assigns (map.assignedSlots memory objects)
        (map.contents (map.takeAll objects memory)) := by
  induction objects generalizing memory with
  | nil => exact ⟨hready, .nil _⟩
  | cons object? rest ih =>
      obtain ⟨hfirst, hrest⟩ := hasRoom_cons.mp hroom
      have htakes := hready.takes hapart object?
      obtain ⟨hend, hassigns⟩ := ih (htakes.ready hapart hready hfirst) hrest
      exact ⟨hend, (htakes.assigns hapart hready hfirst).append hassigns⟩

/-- Every reference that was taken to an object has the serial that the slot of the object carries
in the end. -/
theorem Ready.answer_eq (hready : map.Ready memory) (hapart : map.Apart)
    (hspares : ∀ object, some object ∈ objects → map.Spares object)
    (hroom : map.HasRoom memory objects) :
    ∀ taking ∈ map.takings memory objects, ∀ object weak,
      taking.object? = some object → taking.answer = .ok weak →
        slotOf memory object < map.capacity ∧
        weak = ⟨internalIndex memory object,
          (map.contents (map.takeAll objects memory)).serial (slotOf memory object)⟩ := by
  induction objects generalizing memory with
  | nil => exact List.forall_mem_nil _
  | cons object? rest ih =>
      obtain ⟨hfirst, hrest⟩ := hasRoom_cons.mp hroom
      have htakes := hready.takes hapart object?
      have hready' := htakes.ready hapart hready hfirst
      refine List.forall_mem_cons.mpr ⟨fun object weak hobject hanswer => ?_, ?_⟩
      · dsimp only at hobject hanswer
        subst hobject
        rw [hanswer] at htakes
        obtain ⟨hweak, hassigned, hcapacity⟩ := htakes.answer_eq hapart hready hfirst
        -- From here on the slot keeps its serial.
        have hkept := (hready'.takeAll hapart hrest).2.serial_eq hready'.contents_master hassigned
        exact ⟨hcapacity, by rw [hweak, ← hkept]; rfl⟩
      · intro taking hmem object weak hobject hanswer
        have hrequest : some object ∈ rest := by
          rw [← map.map_takings (map.take object? memory).2 rest, ← hobject]
          exact List.mem_map_of_mem hmem
        have hindex := htakes.internalIndex_eq (hspares object (List.mem_cons_of_mem _ hrequest))
        have hslot : slotOf (map.take object? memory).2 object = slotOf memory object := by
          rw [slotOf, hindex, slotOf]
        rw [← hindex, ← hslot]
        exact ih hready' (fun object hmem => hspares object (List.mem_cons_of_mem _ hmem))
          hrest taking hmem object weak hobject hanswer

/-- Requests, whatever they are for, leave every serial that a slot has. The slots that had none get
the numbers after the counter, in the order in which they are first referred to, and the counter
ends at the last of these numbers. All references to objects in one slot have the one serial of the
slot, and a request that fails or is for nothing changes nothing. -/
theorem serials_in_order (hapart : map.Apart) (hready : map.Ready memory)
    (hspares : ∀ object, some object ∈ objects → map.Spares object)
    (hroom : map.HasRoom memory objects) :
    let slots := map.assignedSlots memory objects
    let final := map.takeAll objects memory
    (∀ taking ∈ map.takings memory objects, ∀ index < map.capacity,
      serialAt taking.before map.header index ≠ 0 →
        serialAt taking.after map.header index = serialAt taking.before map.header index) ∧
    slots.Nodup ∧
    (∀ (k : Nat) (hk : k < slots.length), slots[k] < map.capacity ∧
      serialAt memory map.header slots[k] = 0 ∧
      (serialAt final map.header slots[k]).toInt = (masterSerial memory map.header).toInt + (k + 1)) ∧
    (slots.map (serialAt final map.header)).Nodup ∧
    (∀ slot ∈ slots, serialAt final map.header slot ≠ 0) ∧
    (masterSerial final map.header).toInt
      = (masterSerial memory map.header).toInt + slots.length ∧
    (∀ taking ∈ map.takings memory objects, ∀ object weak,
      taking.object? = some object → taking.answer = .ok weak →
        weak = ⟨internalIndex memory object, serialAt final map.header (slotOf memory object)⟩) ∧
    (∀ taking ∈ map.takings memory objects,
      (taking.object? = none ∨ ∃ error, taking.answer = .error error) →
        taking.after = taking.before) := by
  intro slots final
  obtain ⟨hend, hassigns⟩ := hready.takeAll hapart hroom
  have hmaster := hready.contents_master
  have hrequests := hready.takings hapart hroom
  have hfinal {slot : Nat} (hslot : slot < map.capacity) :
      serialAt final map.header slot = (map.contents final).serial slot :=
    serialAt_eq hapart hend.intact hslot
  have hcapacity {slot : Nat} (hmem : slot ∈ slots) : slot < map.capacity :=
    lt_capacity_of_mem_assignedSlots hmem
  have hserials : slots.map (serialAt final map.header) = slots.map (map.contents final).serial :=
    List.map_congr_left fun slot hmem => hfinal (hcapacity hmem)
  refine ⟨fun taking hmem index hindex hserial => ?_, hassigns.nodup hmaster, fun k hk => ?_,
    ?_, fun slot hmem => ?_, hassigns.toInt_master,
    fun taking hmem object weak hobject hanswer => ?_,
    fun taking hmem hnothing => (hrequests taking hmem).2.eq_of_not_ok hnothing⟩
  · obtain ⟨hbefore, htakes⟩ := hrequests taking hmem
    have hafter := htakes.ready hapart hbefore (hroom taking hmem)
    rw [serialAt_eq hapart hbefore.intact hindex] at hserial ⊢
    rw [serialAt_eq hapart hafter.intact hindex]
    exact (htakes.assigns hapart hbefore (hroom taking hmem)).serial_eq hbefore.contents_master hserial
  · have hmem : slots[k] ∈ slots := List.getElem_mem hk
    rw [serialAt_eq hapart hready.intact (hcapacity hmem), hfinal (hcapacity hmem), masterSerial_eq]
    exact ⟨hcapacity hmem, hassigns.unassigned hmaster hmem, hassigns.toInt_serial hmaster hk⟩
  · rw [hserials]
    exact hassigns.nodup_serials hmaster
  · rw [hfinal (hcapacity hmem)]
    exact hassigns.serial_ne_zero hmaster hmem
  · obtain ⟨hlt, hweak⟩ :=
      hready.answer_eq hapart hspares hroom taking hmem object weak hobject hanswer
    rw [hfinal hlt]
    exact hweak

/-- Two of the objects say that they are in slot 1, one in slot 0, one in none, and one past the live
end: two slots get a serial. -/
theorem serials_of_shared_slot :
    let place (object : Address) (index : Int32) (memory : Memory) : Memory :=
      memory.write (Entity.object.address .oak .internalIndex object) index
    let memory := place 0x7000 9 (place 0x6000 (-1) (place 0x5000 1 (place 0x4000 1
      (oneChunk.writeField .count (2 : Int32) oneChunk.blank))))
    let objects : List (Option Address) :=
      [some 0x4000, none, some 0x6000, some 0x3000, some 0x5000, some 0x7000]
    oneChunk.Ready memory ∧ (∀ object, some object ∈ objects → oneChunk.Spares object) ∧
      oneChunk.HasRoom memory objects ∧ (oneChunk.assignedSlots memory objects).length = 2 := by
  intro place memory objects
  have hspares : ∀ object, some object ∈ objects → oneChunk.Spares object := by
    intro object hmem
    simp only [objects, List.mem_cons, Option.some.injEq, reduceCtorEq, false_or,
      List.not_mem_nil, or_false] at hmem
    rcases hmem with rfl | rfl | rfl | rfl | rfl <;> exact spares_oneChunk (by decide) (by decide)
  have hplace {memory : Memory} (hintact : oneChunk.Intact memory) {object : Address}
      (hmem : some object ∈ objects) (index : Int32) :
      oneChunk.Intact (place object index memory) :=
    (intact_place hintact (hspares object hmem) index).1
  have hcount : oneChunk.Intact (oneChunk.writeField .count (2 : Int32) oneChunk.blank) :=
    (intact_blank apart_oneChunk).writeField apart_oneChunk rfl trivial (by decide)
  have hready : oneChunk.Ready memory := by
    refine ⟨?_, by decide +kernel, by decide +kernel⟩
    exact hplace (hplace (hplace (hplace hcount (by decide) 1) (by decide) 1) (by decide) (-1))
      (by decide) 9
  have hroom : oneChunk.HasRoom memory objects := by
    rw [HasRoom]
    decide +kernel
  refine ⟨hready, hspares, hroom, ?_⟩
  obtain ⟨-, -, -, -, -, hmaster, -⟩ := serials_in_order apart_oneChunk hready hspares hroom
  have hend : masterSerial (oneChunk.takeAll objects memory) oneChunk.header = 2 := by
    decide +kernel
  have hstart : masterSerial memory oneChunk.header = 0 := by decide +kernel
  rw [hend, hstart] at hmaster
  have htwo : (2 : Int32).toInt = 2 := rfl
  rw [htwo, Int32.toInt_zero] at hmaster
  omega

end ChunkMap

end HostBridge
