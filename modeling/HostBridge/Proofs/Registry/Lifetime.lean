import HostBridge.Proofs.Registry.Contents

/-!
# The lifetime of weak references

Serials are handed out in increasing order, so no slot gets a serial a second time: once an object
has left its slot, the references to it resolve to nothing for good, even if another object, or the
same one, takes the slot.
-/

namespace HostBridge

open Registry

namespace ChunkMap

/-- One change of the contents of a registry with room for so many slots. -/
inductive Change (capacity : Nat) : Contents → Contents → Prop where
  | keep (contents : Contents) : Change capacity contents contents
  | assign {contents : Contents} {index : Nat} (unassigned : contents.serial index = 0)
      (bounded : 0 ≤ contents.master + 1) : Change capacity contents (contents.assign index)
  | place {contents : Contents} {index : Nat} (object : Address)
      (empty : contents.object index = 0) (unassigned : contents.serial index = 0) :
      Change capacity contents
        { contents with object := Function.update contents.object index object }
  | destroy {contents : Contents} {index : Nat} (occupied : contents.object index ≠ 0) :
      Change capacity contents
        { contents with
          object := Function.update contents.object index 0
          serial := Function.update contents.serial index 0 }
  | resize {contents : Contents} {count : Int32} (within : count.toInt.toNat ≤ capacity) :
      Change capacity contents { contents with count := count }

namespace Contents

/-- Every serial was taken from the master counter. -/
structure Bounded (contents : Contents) : Prop where
  master : 0 ≤ contents.master
  serial : ∀ index, 0 ≤ contents.serial index ∧ contents.serial index ≤ contents.master

/-- Whether a slot holds an object under the serial of a reference. -/
def Keeps (contents : Contents) (index : Nat) (serial : Int32) (object : Address) : Prop :=
  contents.object index = object ∧ contents.serial index = serial

/-- Whether a slot does not carry the serial of a reference and will not get it again. -/
def Lost (contents : Contents) (index : Nat) (serial : Int32) : Prop :=
  serial ≤ contents.master ∧ contents.serial index ≠ serial

end Contents

/-- A serial that can go up without turning negative is below the greatest one. -/
theorem lt_maxValue {serial : Int32} (h : 0 ≤ serial + 1) : serial < Int32.maxValue := by
  have hlt := serial.toInt_lt
  rw [Int32.le_iff_toInt_le, Int32.toInt_add] at h
  simp only [Int.bmod, Int32.toInt_zero, Int32.toInt_one] at h
  rw [Int32.lt_iff_toInt_lt, Int32.toInt_maxValue]
  omega

theorem toInt_add_one {serial : Int32} (h : serial < Int32.maxValue) :
    (serial + 1).toInt = serial.toInt + 1 := by
  have hlow := Int32.le_toInt serial
  rw [Int32.lt_iff_toInt_lt, Int32.toInt_maxValue] at h
  rw [Int32.toInt_add, Int32.toInt_one, Int.bmod_eq_of_le]
  · omega
  · omega

variable {capacity : Nat} {contents contents' : Contents} {index : Nat} {serial : Int32}
  {object : Address}

theorem master_lt_assign (hsucc : 0 ≤ contents.master + 1) :
    contents.master < contents.master + 1 := by
  rw [Int32.lt_iff_toInt_lt, toInt_add_one (lt_maxValue hsucc)]
  omega

theorem Contents.Bounded.update (hbounded : contents.Bounded) {master value : Int32}
    (hmaster : contents.master ≤ master) (hnonneg : 0 ≤ value) (hle : value ≤ master)
    (index other : Nat) :
    0 ≤ Function.update contents.serial index value other ∧
      Function.update contents.serial index value other ≤ master := by
  by_cases heq : other = index
  · subst heq
    rw [Function.update_self]
    exact ⟨hnonneg, hle⟩
  · rw [Function.update_of_ne heq]
    obtain ⟨hserial, hbound⟩ := hbounded.serial other
    exact ⟨hserial, Int32.le_trans hbound hmaster⟩

theorem Change.bounded (h : Change capacity contents contents') (hbounded : contents.Bounded) :
    contents'.Bounded := by
  cases h with
  | keep => exact hbounded
  | place | resize => exact ⟨hbounded.master, hbounded.serial⟩
  | destroy =>
      exact ⟨hbounded.master,
        hbounded.update (Int32.le_refl _) (Int32.le_refl 0) hbounded.master _⟩
  | assign _ hsucc =>
      have hlt := master_lt_assign hsucc
      exact ⟨hsucc, hbounded.update (Int32.le_of_lt hlt) hsucc (Int32.le_refl _) _⟩

theorem Change.size_le (h : Change capacity contents contents') (hsize : contents.size ≤ capacity) :
    contents'.size ≤ capacity := by
  cases h with
  | keep | assign | place | destroy => exact hsize
  | resize hwithin => exact hwithin

theorem Change.lost (h : Change capacity contents contents') (hpos : serial ≠ 0)
    (hlost : contents.Lost index serial) : contents'.Lost index serial := by
  obtain ⟨hle, hne⟩ := hlost
  cases h with
  | keep | place | resize => exact ⟨hle, hne⟩
  | @destroy destroyed =>
      refine ⟨hle, ?_⟩
      by_cases heq : index = destroyed
      · subst heq
        exact fun hserial => hpos (by rw [← hserial]; exact Function.update_self ..)
      · exact (Function.update_of_ne heq ..).trans_ne hne
  | @assign assigned _ hsucc =>
      -- A fresh serial is greater than every one that was handed out before.
      have hlt := master_lt_assign hsucc
      refine ⟨Int32.le_trans hle (Int32.le_of_lt hlt), ?_⟩
      by_cases heq : index = assigned
      · subst heq
        refine (Function.update_self ..).trans_ne fun hfresh => ?_
        exact Int32.lt_irrefl (Int32.lt_of_lt_of_le hlt (hfresh ▸ hle))
      · exact (Function.update_of_ne heq ..).trans_ne hne

/-- A slot that an object holds under a serial goes on doing so, or the object leaves it and the
slot does not get the serial again. -/
theorem Change.keeps_or_lost (h : Change capacity contents contents') (hbounded : contents.Bounded)
    (hpos : serial ≠ 0) (hobject : object ≠ 0) (hkeeps : contents.Keeps index serial object) :
    contents'.Keeps index serial object ∨
      contents'.object index ≠ object ∧ contents'.Lost index serial := by
  obtain ⟨hheld, hserial⟩ := hkeeps
  have hle : serial ≤ contents.master := hserial ▸ (hbounded.serial index).2
  cases h with
  | keep | resize => exact .inl ⟨hheld, hserial⟩
  | @place placed other hempty =>
      have hne : index ≠ placed := fun heq => hobject (by rw [← hheld, heq, hempty])
      exact .inl ⟨(Function.update_of_ne hne ..).trans hheld, hserial⟩
  | @assign assigned hunassigned =>
      have hne : index ≠ assigned := fun heq => hpos (by rw [← hserial, heq, hunassigned])
      exact .inl ⟨hheld, (Function.update_of_ne hne ..).trans hserial⟩
  | @destroy destroyed =>
      by_cases heq : index = destroyed
      · subst heq
        refine .inr ⟨?_, hle, ?_⟩
        · exact (Function.update_self ..).trans_ne hobject.symm
        · exact (Function.update_self ..).trans_ne hpos.symm
      · exact .inl ⟨(Function.update_of_ne heq ..).trans hheld,
          (Function.update_of_ne heq ..).trans hserial⟩

/-- What may happen to a registry: a consumer takes references to objects and resolves them, and the
host does the rest. -/
inductive Move where
  | reference (object : Address)
  | resolve (weak : WeakReference)
  | place (index : Nat) (object : Address)
  | destroy (index : Nat)
  | resize (count : Int32)
  | assign (index : Nat)

def objectRegion (object : Address) : Region := ⟨object, (Entity.object.layout .oak).size⟩

/-- Whether an object lies outside of the registry. -/
def Spares (map : ChunkMap) (object : Address) : Prop :=
  ∀ part, map.HasPart part → (objectRegion object).Disjoint (map.partRegion part)

def after (map : ChunkMap) (memory : Memory) : Move → Memory
  | .reference object =>
    match map.registry.reference memory (some object) with
    | .ok (_, memory) => memory
    | .error _ => memory
  | .resolve _ => memory
  | .place index object =>
    map.writeField (.object index) object
      (memory.write (Entity.object.address .oak .internalIndex object) (Int32.ofNat index))
  | .destroy index =>
    map.writeField (.serial index) (0 : Int32) (map.writeField (.object index) (0 : Address) memory)
  | .resize count => map.writeField .count count memory
  | .assign index => map.assign index memory

/-- When a move may happen. References are taken to objects in their slots, new objects come into
empty slots without a serial, and the live end stays within the chunk table. A counter that passes
the greatest serial would turn negative. -/
def Allows (map : ChunkMap) (memory : Memory) (move : Move) : Prop :=
  0 ≤ masterSerial (map.after memory move) map.header ∧
    match move with
    | .reference object =>
      let index := internalIndex memory object
      object ≠ 0 ∧ 0 ≤ index ∧ index.toInt.toNat < map.capacity ∧
        map.registry.slot memory index.toInt.toNat = object
    | .resolve _ => True
    | .place index object =>
      map.HasItem index ∧ map.registry.slot memory index = 0 ∧
        serialAt memory map.header index = 0 ∧ object ≠ 0 ∧ map.Spares object
    | .destroy index => map.HasItem index ∧ map.registry.slot memory index ≠ 0
    | .resize count => count.toInt.toNat ≤ map.capacity
    | .assign index => map.HasItem index ∧ serialAt memory map.header index = 0

def run (map : ChunkMap) (memory : Memory) (moves : List Move) : Memory :=
  moves.foldl map.after memory

/-- Whether moves may happen one after the other. -/
def Runs (map : ChunkMap) : Memory → List Move → Prop
  | _, [] => True
  | memory, move :: rest => map.Allows memory move ∧ map.Runs (map.after memory move) rest

/-- Whether an object is in a slot now and after each of the moves. -/
def Stays (map : ChunkMap) (index : Nat) (object : Address) : Memory → List Move → Prop
  | memory, [] => map.registry.slot memory index = object
  | memory, move :: rest =>
    map.registry.slot memory index = object ∧ map.Stays index object (map.after memory move) rest

/-- Whether a registry is intact, its live end is within the chunk table, and every serial was taken
from the master counter. -/
structure Sound (map : ChunkMap) (memory : Memory) : Prop where
  intact : map.Intact memory
  size_le : map.registry.size memory ≤ map.capacity
  master : 0 ≤ masterSerial memory map.header
  serial : ∀ index < map.capacity, 0 ≤ serialAt memory map.header index ∧
    serialAt memory map.header index ≤ masterSerial memory map.header

variable {map : ChunkMap} {memory : Memory}

theorem Sound.bounded (hapart : map.Apart) (hsound : map.Sound memory) :
    (map.contents memory).Bounded where
  master := hsound.master
  serial index := by
    by_cases hindex : index < map.capacity
    · rw [← serialAt_eq hapart hsound.intact hindex]
      exact hsound.serial index hindex
    · have hnone : ¬map.HasItem index := fun hitem => hindex (lt_capacity_of_hasItem hitem)
      simp only [contents, if_neg hnone]
      exact ⟨Int32.le_refl 0, hsound.master⟩

theorem sound_blank (hapart : map.Apart) : map.Sound map.blank where
  intact := intact_blank hapart
  size_le := by
    rw [size_eq, contents_blank hapart]
    exact Nat.zero_le _
  master := by
    rw [masterSerial_eq, contents_blank hapart]
    exact Int32.le_refl 0
  serial index hindex := by
    rw [serialAt_eq hapart (intact_blank hapart) hindex, masterSerial_eq, contents_blank hapart]
    exact ⟨Int32.le_refl 0, Int32.le_refl 0⟩

theorem extent_internalIndex (object : Address) :
    Stored.extent Int32 (Entity.object.address .oak .internalIndex object)
      = (objectRegion object).part 12 4 := rfl

theorem intact_place (hintact : map.Intact memory) (hspares : map.Spares object)
    (index : Int32) :
    map.Intact (memory.write (Entity.object.address .oak .internalIndex object) index) ∧
      map.contents (memory.write (Entity.object.address .oak .internalIndex object) index)
        = map.contents memory := by
  have hsize : (objectRegion object).size = 40 := rfl
  have heq (part : Part) (h : map.HasPart part) : Memory.EqOn (map.partRegion part)
      (memory.write (Entity.object.address .oak .internalIndex object) index) memory := by
    refine Memory.eqOn_write ((hspares part h).mono_left ?_)
    rw [extent_internalIndex]
    exact Region.part_subset (by rw [hsize]; decide)
  exact ⟨hintact.congr heq, contents_congr heq⟩

/-- Every move that may happen is one change of the contents, and keeps the pointers intact. -/
theorem change_after (hapart : map.Apart) (hintact : map.Intact memory)
    (hsize : map.registry.size memory ≤ map.capacity) {move : Move}
    (hallows : map.Allows memory move) :
    map.Intact (map.after memory move) ∧
      Change map.capacity (map.contents memory) (map.contents (map.after memory move)) := by
  obtain ⟨hmaster, hmove⟩ := hallows
  cases move with
  | resolve weak => exact ⟨hintact, .keep _⟩
  | resize count =>
      refine ⟨hintact.writeField hapart rfl trivial (by decide), ?_⟩
      rw [after, contents_writeCount hapart]
      exact .resize hmove
  | assign index =>
      obtain ⟨hitem, hserial⟩ := hmove
      rw [serialAt_eq hapart hintact (lt_capacity_of_hasItem hitem)] at hserial
      rw [masterSerial_eq, after, contents_assign hapart hitem] at hmaster
      refine ⟨hintact.assign hapart hitem, ?_⟩
      rw [after, contents_assign hapart hitem]
      exact .assign hserial hmaster
  | destroy index =>
      obtain ⟨hitem, hoccupied⟩ := hmove
      rw [slot_eq hapart hintact (lt_capacity_of_hasItem hitem)] at hoccupied
      have hemptied : map.Intact (map.writeField (.object index) (0 : Address) memory) :=
        hintact.writeField hapart rfl hitem (by simp)
      refine ⟨hemptied.writeField hapart rfl hitem (by simp), ?_⟩
      rw [after, contents_writeSerial hapart hitem, contents_writeObject hapart hitem]
      exact .destroy hoccupied
  | place index object =>
      obtain ⟨hitem, hempty, hserial, -, hspares⟩ := hmove
      rw [slot_eq hapart hintact (lt_capacity_of_hasItem hitem)] at hempty
      rw [serialAt_eq hapart hintact (lt_capacity_of_hasItem hitem)] at hserial
      obtain ⟨hintact', hcontents⟩ := intact_place hintact hspares (Int32.ofNat index)
      refine ⟨hintact'.writeField hapart rfl hitem (by simp), ?_⟩
      rw [after, contents_writeObject hapart hitem, hcontents]
      exact .place object hempty hserial
  | reference object =>
      simp only [after] at hmaster ⊢
      cases hreference : map.registry.reference memory (some object) with
      | error error => exact ⟨hintact, .keep _⟩
      | ok result =>
          obtain ⟨-, -, -, hitem, hassigned | hkept⟩ := reference_ok hapart hintact hsize hreference
          · obtain ⟨hserial, -, hmemory⟩ := hassigned
            simp only [hreference, hmemory, masterSerial_eq, contents_assign hapart hitem]
              at hmaster ⊢
            exact ⟨hintact.assign hapart hitem, .assign hserial hmaster⟩
          · obtain ⟨-, -, hmemory⟩ := hkept
            simp only [hmemory]
            exact ⟨hintact, .keep _⟩

theorem Sound.after (hapart : map.Apart) (hsound : map.Sound memory) {move : Move}
    (hallows : map.Allows memory move) : map.Sound (map.after memory move) := by
  obtain ⟨hintact, hchange⟩ := change_after hapart hsound.intact hsound.size_le hallows
  have hbounded := hchange.bounded (hsound.bounded hapart)
  refine ⟨hintact, hchange.size_le hsound.size_le, hbounded.master, fun index hindex => ?_⟩
  rw [serialAt_eq hapart hintact hindex]
  exact hbounded.serial index

theorem runs_append {moves moves' : List Move} :
    map.Runs memory (moves ++ moves') ↔
      map.Runs memory moves ∧ map.Runs (map.run memory moves) moves' := by
  induction moves generalizing memory with
  | nil => simp [Runs, run]
  | cons move rest ih => simp only [List.cons_append, Runs, ih, and_assoc, run, List.foldl_cons]

theorem Sound.run (hapart : map.Apart) (hsound : map.Sound memory) {moves : List Move}
    (hruns : map.Runs memory moves) : map.Sound (map.run memory moves) := by
  induction moves generalizing memory with
  | nil => exact hsound
  | cons move rest ih =>
      obtain ⟨hallows, hrest⟩ := hruns
      exact ih (hsound.after hapart hallows) hrest

theorem lost_run (hapart : map.Apart) (hsound : map.Sound memory) (hpos : serial ≠ 0)
    {moves : List Move} (hruns : map.Runs memory moves)
    (hlost : (map.contents memory).Lost index serial) :
    (map.contents (map.run memory moves)).Lost index serial := by
  induction moves generalizing memory with
  | nil => exact hlost
  | cons move rest ih =>
      obtain ⟨hallows, hrest⟩ := hruns
      obtain ⟨-, hchange⟩ := change_after hapart hsound.intact hsound.size_le hallows
      exact ih (hsound.after hapart hallows) hrest (hchange.lost hpos hlost)

theorem Stays.held {moves : List Move} (h : map.Stays index object memory moves) :
    map.registry.slot memory index = object := by
  cases moves with
  | nil => exact h
  | cons => exact h.1

/-- An object that a slot holds under a serial stays in it, still under the serial, or leaves it at
some point, and from then on the slot does not carry the serial. -/
theorem keeps_or_lost_run (hapart : map.Apart) (hsound : map.Sound memory) (hpos : serial ≠ 0)
    (hobject : object ≠ 0) (hindex : index < map.capacity) {moves : List Move}
    (hruns : map.Runs memory moves) (hkeeps : (map.contents memory).Keeps index serial object) :
    map.Stays index object memory moves ∧
        (map.contents (map.run memory moves)).Keeps index serial object ∨
      ¬map.Stays index object memory moves ∧
        (map.contents (map.run memory moves)).Lost index serial := by
  have hheld : map.registry.slot memory index = object :=
    (slot_eq hapart hsound.intact hindex).trans hkeeps.1
  induction moves generalizing memory with
  | nil => exact .inl ⟨hheld, hkeeps⟩
  | cons move rest ih =>
      obtain ⟨hallows, hrest⟩ := hruns
      obtain ⟨hintact, hchange⟩ := change_after hapart hsound.intact hsound.size_le hallows
      have hsound' := hsound.after hapart hallows
      have hslot := slot_eq hapart hintact hindex
      rcases hchange.keeps_or_lost (hsound.bounded hapart) hpos hobject hkeeps with
        hkept | ⟨hleft, hlost⟩
      · rcases ih hsound' hrest hkept (hslot.trans hkept.1) with ⟨hstays, hend⟩ | ⟨hstays, hend⟩
        · exact .inl ⟨⟨hheld, hstays⟩, hend⟩
        · exact .inr ⟨fun h => hstays h.2, hend⟩
      · -- From here on the rest of the run is about a serial that is lost.
        refine .inr ⟨fun h => hleft (hslot.symm.trans h.2.held), ?_⟩
        exact lost_run hapart hsound' hpos hrest hlost

theorem Contents.resolve_of_keeps {weak : WeakReference}
    (hkeeps : contents.Keeps weak.index.toInt.toNat weak.serial object) (hnull : weak.isNull = false)
    (hobject : object ≠ 0) :
    contents.resolve weak =
      if weak.index.toInt.toNat < contents.size then some object else none := by
  obtain ⟨hheld, hserial⟩ := hkeeps
  rw [Contents.resolve, hheld, hserial, hnull, nonNull?, if_neg hobject]
  simp only [Bool.false_or, bne_self_eq_false, Bool.or_false, decide_eq_true_eq]
  by_cases hlive : contents.size ≤ weak.index.toInt.toNat
  · rw [if_pos hlive, if_neg (Nat.not_lt.mpr hlive)]
  · rw [if_neg hlive, if_pos (Nat.lt_of_not_le hlive)]

theorem Contents.resolve_of_lost {weak : WeakReference}
    (hlost : contents.Lost weak.index.toInt.toNat weak.serial) : contents.resolve weak = none := by
  have hserial : (contents.serial weak.index.toInt.toNat != weak.serial) = true :=
    bne_iff_ne.mpr hlost.2
  rw [Contents.resolve, hserial, Bool.or_true, if_pos rfl]

theorem keeps_of_reference (hapart : map.Apart) (hsound : map.Sound memory)
    (hallows : map.Allows memory (.reference object)) {weak : WeakReference} {memory' : Memory}
    (hreference : map.registry.reference memory (some object) = .ok (weak, memory')) :
    (map.contents memory').Keeps weak.index.toInt.toNat weak.serial object ∧
      weak.isNull = false := by
  obtain ⟨hmaster, -, -, hcapacity, hheld⟩ := hallows
  obtain ⟨hindex, hnonneg, -, hitem, hserial⟩ :=
    reference_ok hapart hsound.intact hsound.size_le hreference
  have hbounded := hsound.bounded hapart
  rw [← hindex] at hheld hcapacity
  rw [slot_eq hapart hsound.intact hcapacity] at hheld
  have hnull (hpos : weak.serial ≠ 0) : weak.isNull = false := by
    simp [WeakReference.isNull, hpos, Int32.not_lt.mpr hnonneg]
  rcases hserial with ⟨-, hfresh, hmemory⟩ | ⟨hassigned, hserial, hmemory⟩
  · simp only [after, hreference, hmemory, masterSerial_eq, contents_assign hapart hitem] at hmaster
    have hpos : weak.serial ≠ 0 := by
      have hlt := master_lt_assign hmaster
      rw [hfresh]
      exact Ne.symm (Int32.ne_of_lt (Int32.lt_of_le_of_lt hbounded.master hlt))
    rw [hmemory, contents_assign hapart hitem]
    exact ⟨⟨hheld, (Function.update_self ..).trans hfresh.symm⟩, hnull hpos⟩
  · rw [hmemory]
    exact ⟨⟨hheld, hserial.symm⟩, hnull (hserial ▸ hassigned)⟩

/-- A weak reference to an object leads to the object as long as the object stays in its slot and
the slot is live. Once the object has left the slot, the reference leads to nothing, whatever the
slot holds later. -/
theorem reference_lifetime (hapart : map.Apart) (hsound : map.Sound memory)
    {earlier later : List Move} {weak : WeakReference} {memory' : Memory}
    (hruns : map.Runs memory (earlier ++ .reference object :: later))
    (hreference : map.registry.reference (map.run memory earlier) (some object)
      = .ok (weak, memory')) :
    let now := map.run memory' later
    let index := (internalIndex (map.run memory earlier) object).toInt.toNat
    (map.Stays index object memory' later ∧ index < map.registry.size now →
      map.registry.resolve now weak = .ok (some object)) ∧
    (¬(map.Stays index object memory' later ∧ index < map.registry.size now) →
      map.registry.resolve now weak = .ok none) := by
  obtain ⟨hearlier, hallows, hlater⟩ := runs_append.mp hruns
  have hstart := hsound.run hapart hearlier
  have hafter : map.after (map.run memory earlier) (.reference object) = memory' := by
    simp only [after, hreference]
  have hsound' : map.Sound memory' := hafter ▸ hstart.after hapart hallows
  obtain ⟨hkeeps, hnull⟩ := keeps_of_reference hapart hstart hallows hreference
  obtain ⟨-, hobject, -, hcapacity, -⟩ := hallows
  obtain ⟨hindex, -⟩ := reference_ok hapart hstart.intact hstart.size_le hreference
  rw [hafter] at hlater
  rw [← hindex] at hcapacity ⊢
  have hpos : weak.serial ≠ 0 := by
    intro hzero
    simp [WeakReference.isNull, hzero] at hnull
  intro now index
  have hnow : map.Sound now := hsound'.run hapart hlater
  rw [resolve_eq hapart hnow.intact hnow.size_le, size_eq]
  rcases keeps_or_lost_run hapart hsound' hpos hobject hcapacity hlater hkeeps with
    ⟨hstays, hend⟩ | ⟨hleft, hend⟩
  · rw [Contents.resolve_of_keeps hend hnull hobject]
    refine ⟨fun h => by rw [if_pos h.2], fun h => ?_⟩
    rw [if_neg fun hlive => h ⟨hstays, hlive⟩]
  · rw [Contents.resolve_of_lost hend]
    exact ⟨fun h => absurd h.1 hleft, fun _ => rfl⟩

def oneChunk : ChunkMap := ⟨0x1000, 0x2000, [0x100000]⟩

theorem chunk_oneChunk {number : Nat} (h : oneChunk.chunk number ≠ 0) : number = 0 := by
  cases number with
  | zero => rfl
  | succ number => exact absurd rfl h

theorem apart_oneChunk : oneChunk.Apart where
  header_table _ := Region.disjoint_of_end_le (by decide) (by decide)
  header_chunk number h := by
    rw [chunk_oneChunk h]
    exact Region.disjoint_of_end_le (by decide) (by decide)
  table_chunk number h := by
    rw [chunk_oneChunk h]
    exact Region.disjoint_of_end_le (by decide) (by decide)
  chunk_chunk number number' hne h h' := absurd (chunk_oneChunk h ▸ (chunk_oneChunk h').symm) hne
  not_null number h := by
    rw [chunk_oneChunk h]
    decide

theorem spares_oneChunk {object : Address} (hlow : 0x2008 ≤ object.toNat)
    (hhigh : object.toNat + 40 ≤ 0x100000) : oneChunk.Spares object := by
  have hspace : object.toNat + 40 ≤ 2 ^ 64 := Nat.le_trans hhigh (by decide)
  intro part h
  refine Region.Disjoint.symm ?_
  cases part with
  | header => exact Region.disjoint_of_end_le (Nat.le_trans (by decide) hlow) hspace
  | table => exact Region.disjoint_of_end_le (Nat.le_trans (by decide) hlow) hspace
  | item index =>
      refine Region.Disjoint.mono_left ?_ (partRegion_item_subset _ index)
      rw [chunk_oneChunk h]
      exact (Region.disjoint_of_end_le hhigh (by decide)).symm

theorem stale_after_reuse :
    let earlier : List Move := [.resize 1, .place 0 0x3000]
    let later : List Move := [.destroy 0, .place 0 0x4000, .reference 0x4000]
    oneChunk.Runs oneChunk.blank (earlier ++ .reference 0x3000 :: later) ∧
      ∃ weak memory', oneChunk.registry.reference (oneChunk.run oneChunk.blank earlier) (some 0x3000)
        = .ok (weak, memory') ∧
        oneChunk.registry.resolve (oneChunk.run memory' later) weak = .ok none := by
  intro earlier later
  have hruns : oneChunk.Runs oneChunk.blank (earlier ++ .reference 0x3000 :: later) := by
    refine ⟨⟨by decide +kernel, by decide +kernel⟩, ⟨by decide +kernel, ?_⟩,
      ⟨by decide +kernel, by decide +kernel⟩, ⟨by decide +kernel, by decide +kernel⟩,
      ⟨by decide +kernel, ?_⟩, ⟨by decide +kernel, by decide +kernel⟩, trivial⟩
    · exact ⟨by decide, by decide +kernel, by decide +kernel, by decide,
        spares_oneChunk (by decide) (by decide)⟩
    · exact ⟨by decide, by decide +kernel, by decide +kernel, by decide,
        spares_oneChunk (by decide) (by decide)⟩
  refine ⟨hruns, ?_⟩
  have hsound := sound_blank apart_oneChunk
  cases hreference : oneChunk.registry.reference (oneChunk.run oneChunk.blank earlier)
      (some 0x3000) with
  | error error =>
      have hok : (oneChunk.registry.reference (oneChunk.run oneChunk.blank earlier)
        (some 0x3000)).toBool = true := by decide +kernel
      rw [hreference] at hok
      cases hok
  | ok result =>
      obtain ⟨weak, memory'⟩ := result
      have hmemory : oneChunk.after (oneChunk.run oneChunk.blank earlier) (.reference 0x3000)
          = memory' := by
        simp only [after, hreference]
      refine ⟨weak, memory', rfl, (reference_lifetime apart_oneChunk hsound hruns hreference).2 ?_⟩
      rintro ⟨⟨-, hleft, -⟩, -⟩
      rw [← hmemory] at hleft
      exact absurd hleft (by decide +kernel)

end ChunkMap

end HostBridge
