import HostBridge.Proofs.Layout.Fields
import HostBridge.Proofs.Reflection.Elements
import HostBridge.Reflection.Attribute

/-!
# Attributes and their base values

The value of an attribute and its base value lie side by side in the container, the base value where
the linked attribute says. As long as neither lies in the other or in a description, each of them is
a variable of its own. Where the link is null there is no base value, and what the linked attribute
is linked to itself makes no difference.
-/

namespace HostBridge.Attribute

inductive Part where
  | value
  | base
  deriving DecidableEq

structure Quantity where
  flavour : Flavour
  kind : AttributeKind
  property : Address
  container : Address

namespace Quantity

variable {quantity : Quantity} {memory memory' : Memory} {part other : Part} {start : Address}

abbrev Carrier (quantity : Quantity) : Type :=
  quantity.kind.scalar.Carrier

def link (quantity : Quantity) (memory : Memory) : Address :=
  baseAttribute quantity.flavour quantity.kind memory quantity.property

/-- The attribute that says where a part lies. -/
def subject (quantity : Quantity) (memory : Memory) : Part → Address
  | .value => quantity.property
  | .base => quantity.link memory

def count (quantity : Quantity) (memory : Memory) (subject : Address) : Int :=
  (Property.arrayDim quantity.flavour memory subject).toInt

def first (quantity : Quantity) (memory : Memory) (subject : Address) : Address :=
  quantity.container + UInt64.ofInt (Property.offset quantity.flavour memory subject).toInt

def descriptor (quantity : Quantity) (subject : Address) : Region :=
  ⟨subject, (quantity.kind.entity.layout quantity.flavour).size⟩

/-- The part of a description that says where the first element lies. -/
def located (quantity : Quantity) (subject : Address) : Region :=
  ⟨subject, (Entity.property.layout quantity.flavour).size⟩

def linkAddress (quantity : Quantity) (subject : Address) : Address :=
  quantity.kind.entity.address quantity.flavour .otherAttributeProperty subject

def linkCell (quantity : Quantity) (subject : Address) : Region :=
  Stored.extent Address (quantity.linkAddress subject)

def cell (quantity : Quantity) (start : Address) : Region :=
  Stored.extent quantity.Carrier start

def Has (quantity : Quantity) (memory : Memory) (part : Part) : Prop :=
  part = .base → quantity.link memory ≠ 0

instance : Decidable (quantity.Has memory part) :=
  inferInstanceAs (Decidable (_ → _))

def place (quantity : Quantity) (memory : Memory) (part : Part) : Except Error (Option Address) :=
  if quantity.Has memory part then
    (Property.valueAddress quantity.flavour memory (quantity.subject memory part)
      quantity.container 0).map some
  else .ok none

def read (quantity : Quantity) (memory : Memory) : Part → Except Error (Option quantity.Carrier)
  | .value =>
    (value quantity.flavour quantity.kind memory quantity.property quantity.container).map some
  | .base =>
    baseValue? quantity.flavour quantity.kind memory quantity.property quantity.container

def assign (quantity : Quantity) (part : Part) (value : quantity.Carrier) :
    EStateM Error Memory Bool := do
  let memory ← get
  match quantity.place memory part with
  | .ok (some start) =>
    set (memory.write start value)
    return true
  | .ok none => return false
  | .error error => throw error

/-- The memory after a part is set, whether or not there is one. -/
def assigned (quantity : Quantity) (part : Part) (value : quantity.Carrier) (memory : Memory) :
    Memory :=
  match (quantity.assign part value).run memory with
  | .ok _ after => after
  | .error _ after => after

def assignAll (quantity : Quantity) (settings : List (Part × quantity.Carrier))
    (memory : Memory) : Memory :=
  settings.foldl (fun memory (part, value) => quantity.assigned part value memory) memory

theorem place_value (quantity : Quantity) (memory : Memory) :
    quantity.place memory .value = (Property.valueAddress quantity.flavour memory quantity.property
      quantity.container 0).map some :=
  if_pos nofun

theorem place_base (quantity : Quantity) (memory : Memory) :
    quantity.place memory .base =
      if quantity.link memory = 0 then .ok none
      else (Property.valueAddress quantity.flavour memory (quantity.link memory)
        quantity.container 0).map some := by
  by_cases hlink : quantity.link memory = 0
  · rw [if_pos hlink]
    exact if_neg fun hhas => hhas rfl hlink
  · rw [if_neg hlink]
    exact if_pos fun _ => hlink

theorem place_eq (quantity : Quantity) (memory : Memory) (part : Part) :
    quantity.place memory part =
      if quantity.Has memory part then
        if 0 < quantity.count memory (quantity.subject memory part) then
          .ok (some (quantity.first memory (quantity.subject memory part)))
        else .error (.outOfRange 0 0)
      else .ok none := by
  rw [place, Property.valueAddress_eq, Int.natCast_zero, Int.zero_mul, Int.zero_add, count,
    Property.dimension]
  generalize (Property.arrayDim quantity.flavour memory (quantity.subject memory part)).toInt
    = dim
  by_cases hdim : 0 < dim
  · rw [if_pos (Int.lt_toNat.mpr hdim), if_pos hdim]
    rfl
  · rw [if_neg (mt Int.lt_toNat.mp hdim), if_neg hdim, Int.toNat_of_nonpos (Int.not_lt.mp hdim)]
    rfl

theorem read_eq (quantity : Quantity) (memory : Memory) (part : Part) :
    quantity.read memory part = (quantity.place memory part).map (·.map memory.read) := by
  cases part with
  | value =>
      rw [place_value, read, value, Property.readValue]
      cases Property.valueAddress quantity.flavour memory quantity.property
        quantity.container 0 with
      | ok start => rfl
      | error error => rfl
  | base =>
      have hread : quantity.read memory .base =
          if quantity.link memory = 0 then .ok none
          else ((Property.valueAddress quantity.flavour memory (quantity.link memory)
            quantity.container 0).map memory.read).map some := rfl
      rw [place_base, hread]
      by_cases hlink : quantity.link memory = 0
      · rw [if_pos hlink, if_pos hlink]
        rfl
      · rw [if_neg hlink, if_neg hlink]
        cases Property.valueAddress quantity.flavour memory (quantity.link memory)
          quantity.container 0 with
        | ok start => rfl
        | error error => rfl

theorem run_assign (quantity : Quantity) (part : Part) (value : quantity.Carrier)
    (memory : Memory) :
    (quantity.assign part value).run memory =
      match quantity.place memory part with
      | .ok (some start) => .ok true (memory.write start value)
      | .ok none => .ok false memory
      | .error error => .error error memory := by
  rw [assign, EStateM.run_bind, EStateM.run_get]
  dsimp only
  rcases quantity.place memory part with error | _ | start
  · rfl
  · rfl
  · rfl

theorem run_assign_value (quantity : Quantity) (value : quantity.Carrier) (memory : Memory) :
    (quantity.assign .value value).run memory =
      match setValue quantity.flavour quantity.kind memory quantity.property quantity.container
        value with
      | .ok after => .ok true after
      | .error error => .error error memory := by
  rw [run_assign, place_value, setValue, Property.writeValue]
  cases Property.valueAddress quantity.flavour memory quantity.property quantity.container 0 with
  | ok start => rfl
  | error error => rfl

theorem run_assign_base (quantity : Quantity) (value : quantity.Carrier) (memory : Memory) :
    (quantity.assign .base value).run memory =
      match setBaseValue quantity.flavour quantity.kind memory quantity.property quantity.container
        value with
      | .ok (done, after) => .ok done after
      | .error error => .error error memory := by
  have hset : setBaseValue quantity.flavour quantity.kind memory quantity.property
      quantity.container value =
        if quantity.link memory = 0 then .ok (false, memory)
        else ((Property.valueAddress quantity.flavour memory (quantity.link memory)
          quantity.container 0).map (memory.write · value)).map (true, ·) := rfl
  rw [run_assign, place_base, hset]
  by_cases hlink : quantity.link memory = 0
  · rw [if_pos hlink, if_pos hlink]
  · rw [if_neg hlink, if_neg hlink]
    cases Property.valueAddress quantity.flavour memory (quantity.link memory)
      quantity.container 0 with
    | ok start => rfl
    | error error => rfl

theorem base_of_null (hnull : quantity.link memory = 0) :
    quantity.read memory .base = .ok none ∧
      ∀ value, (quantity.assign .base value).run memory = .ok false memory := by
  have hplace : quantity.place memory .base = .ok none :=
    (quantity.place_base memory).trans (if_pos hnull)
  refine ⟨?_, fun value => ?_⟩
  · rw [read_eq, hplace]
    rfl
  · rw [run_assign, hplace]

theorem part_of_empty (hhas : quantity.Has memory part)
    (hcount : quantity.count memory (quantity.subject memory part) ≤ 0) :
    quantity.read memory part = .error (.outOfRange 0 0) ∧
      ∀ value, (quantity.assign part value).run memory = .error (.outOfRange 0 0) memory := by
  have hplace : quantity.place memory part = .error (.outOfRange 0 0) := by
    rw [place_eq, if_pos hhas, if_neg (Int.not_lt.mpr hcount)]
  refine ⟨?_, fun value => ?_⟩
  · rw [read_eq, hplace]
    rfl
  · rw [run_assign, hplace]

theorem part_of_place (hstart : quantity.place memory part = .ok (some start)) :
    quantity.read memory part = .ok (some (memory.read start)) ∧
      ∀ value, (quantity.assign part value).run memory = .ok true (memory.write start value) := by
  refine ⟨?_, fun value => ?_⟩
  · rw [read_eq, hstart]
    rfl
  · rw [run_assign, hstart]

/-- Setting a part writes it in place, if it lies anywhere, and does nothing else. -/
theorem assigned_cases (quantity : Quantity) (part : Part) (value : quantity.Carrier)
    (memory : Memory) :
    (∃ start, quantity.place memory part = .ok (some start) ∧
      quantity.assigned part value memory = memory.write start value) ∨
    ((∀ start, quantity.place memory part ≠ .ok (some start)) ∧
      quantity.assigned part value memory = memory) := by
  rw [assigned, run_assign]
  rcases quantity.place memory part with error | _ | start
  · exact .inr ⟨nofun, rfl⟩
  · exact .inr ⟨nofun, rfl⟩
  · exact .inl ⟨start, rfl, rfl⟩

theorem link_end_le (flavour : Flavour) (kind : AttributeKind) :
    (kind.entity.layout flavour).offset .otherAttributeProperty + Stored.width Address
      ≤ (kind.entity.layout flavour).size := by
  cases flavour <;> cases kind <;> decide

/-- A link lies behind everything that a property has. -/
theorem property_le_link (flavour : Flavour) (kind : AttributeKind) :
    (Entity.property.layout flavour).size
      ≤ (kind.entity.layout flavour).offset .otherAttributeProperty := by
  cases flavour <;> cases kind <;> decide

theorem width_le (kind : AttributeKind) : Stored.width kind.scalar.Carrier ≤ UInt64.size := by
  cases kind <;> decide

theorem linkCell_eq_part (subject : Address) :
    quantity.linkCell subject = (quantity.descriptor subject).part
      ((quantity.kind.entity.layout quantity.flavour).offset .otherAttributeProperty)
      (Stored.width Address) := rfl

theorem located_eq_part (subject : Address) :
    quantity.located subject = (quantity.descriptor subject).part 0
      (Entity.property.layout quantity.flavour).size := by
  have hstart : subject + UInt64.ofNat 0 = subject := UInt64.add_zero subject
  rw [Region.part, descriptor, hstart, located]

theorem linkCell_subset (subject : Address) :
    quantity.linkCell subject ⊆ quantity.descriptor subject := by
  rw [linkCell_eq_part]
  exact Region.part_subset (link_end_le quantity.flavour quantity.kind)

theorem located_subset (subject : Address) :
    quantity.located subject ⊆ quantity.descriptor subject := by
  have hlink := property_le_link quantity.flavour quantity.kind
  have hend := Nat.le_of_add_right_le (link_end_le quantity.flavour quantity.kind)
  rw [located_eq_part]
  refine Region.part_subset ?_
  rw [Nat.zero_add]
  exact Nat.le_trans hlink hend

theorem linkCell_disjoint_located (subject : Address) :
    (quantity.linkCell subject).Disjoint (quantity.located subject) := by
  have hlink := property_le_link quantity.flavour quantity.kind
  have hspace : (quantity.kind.entity.layout quantity.flavour).size ≤ 2 ^ 64 :=
    Nat.le_trans (Nat.le_of_lt (quantity.kind.entity.layout_size_lt quantity.flavour)) (by decide)
  have hend := Nat.le_trans (link_end_le quantity.flavour quantity.kind) hspace
  rw [linkCell_eq_part, located_eq_part]
  refine (Region.part_disjoint ?_ hend).symm
  rw [Nat.zero_add]
  exact hlink

theorem subject_congr (hlink : quantity.link memory' = quantity.link memory) :
    quantity.subject memory' = quantity.subject memory := by
  funext part
  cases part with
  | value => rfl
  | base => exact hlink

/-- Where the parts lie depends on the link and on what is said of each of them, and on nothing
else. -/
theorem place_congr (hlink : Memory.EqOn (quantity.linkCell quantity.property) memory memory')
    (hlocated : ∀ part, quantity.Has memory part →
      Memory.EqOn (quantity.located (quantity.subject memory part)) memory memory') :
    quantity.link memory' = quantity.link memory ∧
      quantity.place memory' = quantity.place memory := by
  have hsame : quantity.link memory' = quantity.link memory := hlink.read_eq.symm
  refine ⟨hsame, funext fun part => ?_⟩
  by_cases hhas : quantity.Has memory part
  · have hhas' : quantity.Has memory' part := by rwa [Has, hsame]
    let array : Property.Variable :=
      ⟨quantity.flavour, quantity.subject memory part, quantity.container⟩
    rw [place, place, if_pos hhas, if_pos hhas', subject_congr hsame]
    exact congrArg (Except.map some) (array.valueAddress_congr (hlocated part hhas) 0).symm
  · have hhas' : ¬quantity.Has memory' part := by rwa [Has, hsame]
    rw [place, place, if_neg hhas, if_neg hhas']

/-- Whether the parts that lie anywhere overlap neither each other nor a description. -/
structure Apart (quantity : Quantity) (memory : Memory) : Prop where
  cells : ∀ part other start start', part ≠ other →
    quantity.place memory part = .ok (some start) →
    quantity.place memory other = .ok (some start') →
    (quantity.cell start).Disjoint (quantity.cell start')
  descriptors : ∀ part other start, quantity.place memory part = .ok (some start) →
    quantity.Has memory other →
    (quantity.cell start).Disjoint (quantity.descriptor (quantity.subject memory other))

namespace Apart

theorem congr (h : quantity.Apart memory) (hlink : quantity.link memory' = quantity.link memory)
    (hplace : quantity.place memory' = quantity.place memory) : quantity.Apart memory' where
  cells := by
    rw [hplace]
    exact h.cells
  descriptors := by
    simp only [Has, hlink, hplace, subject_congr hlink]
    exact h.descriptors

theorem place_assigned (h : quantity.Apart memory) (part : Part) (value : quantity.Carrier) :
    quantity.link (quantity.assigned part value memory) = quantity.link memory ∧
      quantity.place (quantity.assigned part value memory) = quantity.place memory := by
  have hsame (other : Part) (hother : quantity.Has memory other) :
      Memory.EqOn (quantity.descriptor (quantity.subject memory other)) memory
        (quantity.assigned part value memory) := by
    obtain ⟨start, hstart, hwritten⟩ | ⟨-, hsame⟩ := quantity.assigned_cases part value memory
    · rw [hwritten]
      exact (Memory.eqOn_write (h.descriptors part other start hstart hother)).symm
    · rw [hsame]
      exact fun _ _ => rfl
  exact place_congr ((hsame .value nofun).mono (linkCell_subset _)) fun other hother =>
    (hsame other hother).mono (located_subset _)

theorem assigned (h : quantity.Apart memory) (part : Part) (value : quantity.Carrier) :
    quantity.Apart (quantity.assigned part value memory) :=
  h.congr (h.place_assigned part value).1 (h.place_assigned part value).2

theorem read_assigned (h : quantity.Apart memory)
    (hstart : quantity.place memory part = .ok (some start)) (given : Part)
    (value : quantity.Carrier) :
    ((quantity.assigned given value memory).read start : quantity.Carrier)
      = if part = given then value else memory.read start := by
  obtain ⟨start', hstart', hwritten⟩ | ⟨hnowhere, hsame⟩ :=
    quantity.assigned_cases given value memory
  · rw [hwritten]
    by_cases heq : part = given
    · subst heq
      obtain rfl : start = start' := by
        rw [hstart] at hstart'
        exact Option.some.inj (Except.ok.inj hstart')
      rw [if_pos rfl]
      exact Memory.read_write_self (width_le quantity.kind)
    · rw [if_neg heq]
      exact Memory.read_write_of_disjoint
        (h.cells given part start' start (Ne.symm heq) hstart' hstart)
  · have hne : part ≠ given := by
      rintro rfl
      exact hnowhere start hstart
    rw [hsame, if_neg hne]

theorem byte_assigned (part : Part) (value : quantity.Carrier) {address : Address}
    (houtside : ∀ part start, quantity.place memory part = .ok (some start) →
      address ∉ quantity.cell start) :
    (quantity.assigned part value memory).byte address = memory.byte address := by
  obtain ⟨start, hstart, hwritten⟩ | ⟨-, hsame⟩ := quantity.assigned_cases part value memory
  · rw [hwritten]
    exact Memory.byte_write_of_not_mem (houtside part start hstart)
  · rw [hsame]

theorem place_assignAll (h : quantity.Apart memory)
    (settings : List (Part × quantity.Carrier)) :
    quantity.link (quantity.assignAll settings memory) = quantity.link memory ∧
      quantity.place (quantity.assignAll settings memory) = quantity.place memory := by
  induction settings generalizing memory with
  | nil => exact ⟨rfl, rfl⟩
  | cons setting rest ih =>
      obtain ⟨given, value⟩ := setting
      obtain ⟨hlink, hplace⟩ := h.place_assigned given value
      obtain ⟨hlink', hplace'⟩ := ih (h.assigned given value)
      exact ⟨hlink'.trans hlink, hplace'.trans hplace⟩

theorem read_assignAll (h : quantity.Apart memory) (settings : List (Part × quantity.Carrier))
    (hstart : quantity.place memory part = .ok (some start)) :
    ((quantity.assignAll settings memory).read start : quantity.Carrier)
      = (settings.reverse.lookup part).getD (memory.read start) := by
  induction settings generalizing memory with
  | nil => rfl
  | cons setting rest ih =>
      obtain ⟨given, value⟩ := setting
      have hplace := (h.place_assigned given value).2
      have hrest := ih (h.assigned given value) (by rw [hplace]; exact hstart)
      rw [h.read_assigned hstart] at hrest
      exact hrest.trans (getD_lookup_reverse_cons ..).symm

theorem byte_assignAll (h : quantity.Apart memory) (settings : List (Part × quantity.Carrier))
    {address : Address}
    (houtside : ∀ part start, quantity.place memory part = .ok (some start) →
      address ∉ quantity.cell start) :
    (quantity.assignAll settings memory).byte address = memory.byte address := by
  induction settings generalizing memory with
  | nil => rfl
  | cons setting rest ih =>
      obtain ⟨given, value⟩ := setting
      have hplace := (h.place_assigned given value).2
      refine (ih (h.assigned given value) ?_).trans (byte_assigned given value houtside)
      rw [hplace]
      exact houtside

/-- What the linked attribute is linked to itself makes no difference. -/
theorem read_relinked (h : quantity.Apart memory) (hbase : quantity.link memory ≠ 0)
    (hlinks : (quantity.linkCell (quantity.link memory)).Disjoint
      (quantity.descriptor quantity.property)) (other : Address) :
    let relinked := memory.write (quantity.linkAddress (quantity.link memory)) other
    quantity.place relinked = quantity.place memory ∧
      ∀ part, quantity.read relinked part = quantity.read memory part := by
  intro relinked
  have hplace : quantity.place relinked = quantity.place memory := by
    refine (place_congr (Memory.EqOn.symm (Memory.eqOn_write ?_)) fun part _ =>
      Memory.EqOn.symm (Memory.eqOn_write ?_)).2
    · exact hlinks.mono_right (linkCell_subset _)
    · cases part with
      | value => exact hlinks.mono_right (located_subset _)
      | base => exact linkCell_disjoint_located _
  refine ⟨hplace, fun part => ?_⟩
  rw [read_eq, read_eq, hplace]
  rcases hpart : quantity.place memory part with error | _ | start
  · rfl
  · rfl
  · have hcell := h.descriptors part .base start hpart fun _ => hbase
    have hread : (relinked.read start : quantity.Carrier) = memory.read start :=
      Memory.read_write_of_disjoint (hcell.mono_right (linkCell_subset _)).symm
    exact congrArg (fun value => Except.ok (some value)) hread

end Apart

/-- The two values of an attribute are set and read one by one. In every memory, a null link stands
for no base value, which is then not set either, and a part of an attribute without elements is an
error; neither changes anything. As long as the values overlap neither each other nor a description,
each of them reads, however often both are set, as it was last set, the base value at the offset of
the linked attribute, and nothing but the two values changes. Linking the linked attribute to
another one makes no difference. -/
theorem parts_independent (quantity : Quantity) (memory : Memory)
    (settings : List (Part × quantity.Carrier)) :
    let final := quantity.assignAll settings memory
    let base := quantity.link final
    (∀ value : quantity.Carrier,
      ((quantity.assign .value value).run final =
        match setValue quantity.flavour quantity.kind final quantity.property quantity.container
          value with
        | .ok after => .ok true after
        | .error error => .error error final) ∧
      ((quantity.assign .base value).run final =
        match setBaseValue quantity.flavour quantity.kind final quantity.property
          quantity.container value with
        | .ok (done, after) => .ok done after
        | .error error => .error error final)) ∧
    (base = 0 → quantity.read final .base = .ok none ∧
      ∀ value, (quantity.assign .base value).run final = .ok false final) ∧
    (∀ part, quantity.Has final part →
      quantity.count final (quantity.subject final part) ≤ 0 →
        quantity.read final part = .error (.outOfRange 0 0) ∧
          ∀ value, (quantity.assign part value).run final = .error (.outOfRange 0 0) final) ∧
    (quantity.Apart memory →
      base = quantity.link memory ∧ quantity.place final = quantity.place memory ∧
      (∀ part, quantity.Has memory part →
        0 < quantity.count memory (quantity.subject memory part) →
          let start := quantity.first memory (quantity.subject memory part)
          quantity.read final part
              = .ok (some ((settings.reverse.lookup part).getD (memory.read start))) ∧
            ∀ value, (quantity.assign part value).run final
              = .ok true (final.write start value)) ∧
      (∀ address, (∀ part start, quantity.place memory part = .ok (some start) →
          address ∉ quantity.cell start) →
        final.byte address = memory.byte address) ∧
      (base ≠ 0 →
        (quantity.linkCell base).Disjoint (quantity.descriptor quantity.property) →
          ∀ other : Address, let relinked := final.write (quantity.linkAddress base) other
            quantity.place relinked = quantity.place final ∧
              ∀ part, quantity.read relinked part = quantity.read final part)) := by
  intro final base
  refine ⟨fun value => ?_, base_of_null, fun part hhas hcount => part_of_empty hhas hcount,
    fun hapart => ?_⟩
  · exact ⟨quantity.run_assign_value value final, quantity.run_assign_base value final⟩
  obtain ⟨hlink, hplace⟩ := hapart.place_assignAll settings
  have hfinal : quantity.Apart final := hapart.congr hlink hplace
  refine ⟨hlink, hplace, fun part hhas hcount => ?_,
    fun address houtside => hapart.byte_assignAll settings houtside,
    fun hbase hlinks other => hfinal.read_relinked hbase hlinks other⟩
  intro start
  have hstart : quantity.place memory part = .ok (some start) := by
    rw [place_eq, if_pos hhas, if_pos hcount]
  have hkept : quantity.place final part = .ok (some start) := by rw [hplace, hstart]
  obtain ⟨hread, hassign⟩ := part_of_place hkept
  rw [hapart.read_assignAll settings hstart] at hread
  exact ⟨hread, hassign⟩

/-- A number before the start of its container, linked to one in it; neither is aligned. -/
def gauge : Quantity := ⟨.willow, .int, 0x1000, 0x9001⟩

def gaugeMemory : Memory :=
  let put (label : Label) (value : Int32) (property : Address) (memory : Memory) : Memory :=
    memory.write (Entity.property.address .willow label property) value
  Memory.zeroed |> put .arrayDim 1 0x1000 |> put .offsetInternal (-4) 0x1000
    |> put .arrayDim 1 0x2000 |> put .offsetInternal 3 0x2000
    |> (·.write (gauge.linkAddress 0x1000) (0x2000 : Address))
    |> (·.write (gauge.linkAddress 0x2000) (0x1234 : Address))

theorem place_gauge (part : Part) :
    gauge.place gaugeMemory part
      = .ok (some (gauge.first gaugeMemory (gauge.subject gaugeMemory part))) := by
  have hhas : gauge.Has gaugeMemory part := by cases part <;> decide +kernel
  have hcount : 0 < gauge.count gaugeMemory (gauge.subject gaugeMemory part) := by
    cases part <;> decide +kernel
  rw [place_eq, if_pos hhas, if_pos hcount]

theorem apart_gauge : gauge.Apart gaugeMemory := by
  let start (part : Part) : Address := gauge.first gaugeMemory (gauge.subject gaugeMemory part)
  have hstart {part : Part} {at' : Address}
      (h : gauge.place gaugeMemory part = .ok (some at')) : at' = start part := by
    rw [place_gauge] at h
    exact (Option.some.inj (Except.ok.inj h)).symm
  have hspace (part : Part) :
      (gauge.cell (start part)).start.toNat + (gauge.cell (start part)).size ≤ 2 ^ 64 := by
    cases part <;> decide +kernel
  have hcells : (gauge.cell (start .value)).Disjoint (gauge.cell (start .base)) :=
    Region.disjoint_of_end_le (by decide +kernel) (hspace .base)
  refine ⟨fun part other first second hne hfirst hsecond => ?_, fun part other first hfirst _ => ?_⟩
  · rw [hstart hfirst, hstart hsecond]
    cases part with
    | value =>
        cases other with
        | value => exact absurd rfl hne
        | base => exact hcells
    | base =>
        cases other with
        | value => exact hcells.symm
        | base => exact absurd rfl hne
  · have hbefore : (gauge.descriptor (gauge.subject gaugeMemory other)).start.toNat
        + (gauge.descriptor (gauge.subject gaugeMemory other)).size
          ≤ (gauge.cell (start part)).start.toNat := by
      cases part <;> cases other <;> decide +kernel
    rw [hstart hfirst]
    exact (Region.disjoint_of_end_le hbefore (hspace part)).symm

def unlinkedGauge : Memory :=
  gaugeMemory.write (gauge.linkAddress 0x1000) (0 : Address)

def emptiedGauge : Memory :=
  gaugeMemory.write (Entity.property.address .willow .arrayDim 0x2000) (-1 : Int32)

def gaugeSettings : List (Part × gauge.Carrier) :=
  [(.value, (25 : Int32)), (.base, (10 : Int32)), (.value, (-7 : Int32))]

theorem parts_of_gauge :
    let final := gauge.assignAll gaugeSettings gaugeMemory
    (gauge.Apart gaugeMemory ∧ gauge.read final .value = .ok (some (-7 : Int32)) ∧
      gauge.read final .base = .ok (some (10 : Int32)) ∧
      gauge.read (final.write (gauge.linkAddress 0x2000) (0 : Address)) .base
        = .ok (some (10 : Int32))) ∧
    (gauge.link unlinkedGauge = 0 ∧ gauge.read unlinkedGauge .base = .ok none ∧
      ∀ value, (gauge.assign .base value).run unlinkedGauge = .ok false unlinkedGauge) ∧
    (gauge.Has emptiedGauge .base ∧ gauge.count emptiedGauge 0x2000 ≤ 0 ∧
      gauge.read emptiedGauge .base = .error (.outOfRange 0 0) ∧
      ∀ value, (gauge.assign .base value).run emptiedGauge
        = .error (.outOfRange 0 0) emptiedGauge) := by
  intro final
  obtain ⟨-, -, -, hparts⟩ := parts_independent gauge gaugeMemory gaugeSettings
  obtain ⟨hlink, -, hread, -, hrelinked⟩ := hparts apart_gauge
  have hbase : gauge.link final = 0x2000 := hlink.trans (by decide +kernel)
  have hvalue : gauge.read final .value = .ok (some (-7 : Int32)) :=
    (hread .value nofun (by decide +kernel)).1
  have hbaseValue : gauge.read final .base = .ok (some (10 : Int32)) :=
    (hread .base (by decide +kernel) (by decide +kernel)).1
  have hlinks : (gauge.linkCell 0x2000).Disjoint (gauge.descriptor gauge.property) :=
    Region.Disjoint.symm (Region.disjoint_of_end_le (by decide +kernel) (by decide +kernel))
  have hother := (hrelinked (by rw [hbase]; decide) (by rw [hbase]; exact hlinks) 0).2 .base
  rw [hbase] at hother
  obtain ⟨-, hunlinked, -⟩ := parts_independent gauge unlinkedGauge []
  have hnull : gauge.link unlinkedGauge = 0 := by decide +kernel
  obtain ⟨-, -, hemptied, -⟩ := parts_independent gauge emptiedGauge []
  have hhas : gauge.Has emptiedGauge .base := by decide +kernel
  have hcount : gauge.count emptiedGauge 0x2000 ≤ 0 := by decide +kernel
  exact ⟨⟨apart_gauge, hvalue, hbaseValue, hother.trans hbaseValue⟩,
    ⟨hnull, hunlinked hnull⟩, hhas, hcount, hemptied .base hhas (by decide +kernel)⟩

end Quantity

end HostBridge.Attribute
