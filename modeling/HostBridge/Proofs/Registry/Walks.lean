import HostBridge.Proofs.Registry.Slots

/-!
# Walks while the host changes its registry

A walk takes its bound from the live count when it starts. From then on the host may change anything
between two steps. The walk still takes as many steps as it was bound to, and finds in each what the
slot holds at that moment, or nothing if the slot is no longer live.
-/

namespace HostBridge

open Registry

/-- Whether the storage of a slot is there and holds an address. -/
inductive Registry.Stores (memory : Memory) (index : Nat) (address : Address) : Registry → Prop where
  | flat {header data : Address} (at_header : memory.read (memberAddress .array .data header) = data)
      (data_ne : data ≠ 0) (held : memory.read (data + UInt64.ofNat (8 * index)) = address) :
      Stores memory index address ⟨.willow, header⟩
  | chunked {header table chunk item : Address}
      (at_header : memory.read (memberAddress .registry .objects header) = table)
      (table_ne : table ≠ 0)
      (at_table : memory.read (table + UInt64.ofNat (8 * (index / chunkLength))) = chunk)
      (chunk_ne : chunk ≠ 0)
      (at_chunk : chunk + UInt64.ofNat (24 * (index % chunkLength)) = item) (item_ne : item ≠ 0)
      (held : memory.read (memberAddress .registryItem .object item) = address) :
      Stores memory index address ⟨.oak, header⟩

variable {registry : Registry} {memory : Memory} {index : Nat} {object : Address}

theorem itemAddress_eq_iff {header item : Address} (hitem : item ≠ 0) :
    itemAddress memory header index = item ↔ ∃ table chunk : Address,
      memory.read (memberAddress .registry .objects header) = table ∧ table ≠ 0 ∧
      memory.read (table + UInt64.ofNat (8 * (index / chunkLength))) = chunk ∧ chunk ≠ 0 ∧
      chunk + UInt64.ofNat (24 * (index % chunkLength)) = item := by
  rw [itemAddress]
  constructor
  · intro h
    by_cases htable : memory.read (memberAddress .registry .objects header) = (0 : Address)
    · rw [if_pos htable] at h
      exact absurd h.symm hitem
    · rw [if_neg htable] at h
      refine ⟨_, _, rfl, htable, rfl, ?_⟩
      dsimp only at h
      split at h
      next hchunk => exact absurd h.symm hitem
      next hchunk => exact ⟨hchunk, h⟩
  · rintro ⟨table, chunk, htable, htable', hchunk, hchunk', rfl⟩
    rw [htable, if_neg htable', hchunk]
    exact if_neg hchunk'

theorem slot_of_stores (h : registry.Stores memory index object) :
    registry.slot memory index = object := by
  cases h with
  | flat at_header data_ne held =>
      subst at_header
      simp only [Registry.slot, if_neg data_ne, held]
  | chunked at_header table_ne at_table chunk_ne at_chunk item_ne held =>
      have hitem := (itemAddress_eq_iff item_ne).mpr
        ⟨_, _, at_header, table_ne, at_table, chunk_ne, at_chunk⟩
      simp only [Registry.slot, hitem, if_neg item_ne, held]

theorem stores_of_slot (h : registry.slot memory index = object) (hobject : object ≠ 0) :
    registry.Stores memory index object := by
  obtain ⟨flavour, header⟩ := registry
  cases flavour with
  | willow =>
      simp only [Registry.slot] at h
      split at h
      next hdata => exact absurd h.symm hobject
      next hdata => exact .flat rfl hdata h
  | oak =>
      simp only [Registry.slot] at h
      split at h
      next hitem => exact absurd h.symm hobject
      next hitem =>
        obtain ⟨_, _, htable, htable', hchunk, hchunk', haddress⟩ := (itemAddress_eq_iff hitem).mp rfl
        exact .chunked htable htable' hchunk hchunk' haddress hitem h

theorem nonNull?_slot : nonNull? (registry.slot memory index) = some object ↔
    object ≠ 0 ∧ registry.Stores memory index object := by
  rw [ChunkMap.nonNull?_eq_some]
  constructor
  · rintro ⟨hslot, hobject⟩
    exact ⟨hobject, stores_of_slot hslot hobject⟩
  · rintro ⟨hobject, hstores⟩
    exact ⟨slot_of_stores hstores, hobject⟩

namespace Walk

variable {walk : Walk}

/-- What a step finds in a slot: nothing if the slot is empty or not live. -/
def look (registry : Registry) (memory : Memory) (index : Nat) : Option Address :=
  if registry.size memory ≤ index then none else nonNull? (registry.slot memory index)

/-- Whether something is the object that a slot holds: nothing if the slot is empty, or not live, or
has no storage. -/
def Finds (registry : Registry) (memory : Memory) (index : Nat) (found : Option Address) : Prop :=
  ∀ object, found = some object ↔
    index < registry.size memory ∧ object ≠ 0 ∧ registry.Stores memory index object

theorem finds_look (registry : Registry) (memory : Memory) (index : Nat) :
    Finds registry memory index (look registry memory index) := by
  intro object
  rw [look]
  split
  next hle => exact ⟨nofun, fun h => absurd h.1 (Nat.not_lt.mpr hle)⟩
  next hlt => rw [nonNull?_slot, and_iff_right (Nat.lt_of_not_le hlt)]

def step (walk : Walk) (memory : Memory) : Option (Option Address) × Walk :=
  match walk.next? memory with
  | some (found, next) => (some found, next)
  | none => (none, walk)

theorem next?_of_lt (h : walk.index < walk.bound) (memory : Memory) :
    walk.next? memory = some (look walk.registry memory walk.index,
      { walk with index := walk.index + 1, index_le_bound := h }) :=
  dif_pos h

theorem next?_of_le (h : walk.bound ≤ walk.index) (memory : Memory) : walk.next? memory = none :=
  dif_neg (Nat.not_lt.mpr h)

/-- What a step does depends on the live count, and on a slot only if it is the next one and live. -/
theorem next?_congr {now other : Memory}
    (hcount : walk.registry.count other = walk.registry.count now)
    (hslot : walk.index < walk.registry.size now →
      walk.registry.slot other walk.index = walk.registry.slot now walk.index) :
    walk.next? other = walk.next? now := by
  have hsize : walk.registry.size other = walk.registry.size now := by
    rw [Registry.size, hcount, ← Registry.size]
  by_cases hend : walk.index < walk.bound
  · rw [next?_of_lt hend, next?_of_lt hend, look, look, hsize]
    by_cases hlive : walk.registry.size now ≤ walk.index
    · rw [if_pos hlive, if_pos hlive]
    · rw [hslot (Nat.lt_of_not_le hlive)]
  · rw [next?_of_le (Nat.le_of_not_lt hend), next?_of_le (Nat.le_of_not_lt hend)]

/-- The walk after steps in the given memories, one after the other. -/
def after (walk : Walk) (memories : List Memory) : Walk :=
  memories.foldl (fun walk memory => (walk.step memory).2) walk

def answers : Walk → List Memory → List (Option (Option Address))
  | _, [] => []
  | walk, memory :: rest => (walk.step memory).1 :: (walk.step memory).2.answers rest

theorem step_eq (walk : Walk) (memory : Memory) :
    walk.step memory =
      (if walk.index < walk.bound then some (look walk.registry memory walk.index) else none,
        ⟨walk.handle, walk.registry, min (walk.index + 1) walk.bound, walk.bound,
          Nat.min_le_right _ _⟩) := by
  by_cases h : walk.index < walk.bound
  · simp only [step, next?_of_lt h, if_pos h, Nat.min_eq_left (Nat.succ_le_of_lt h)]
  · have hindex : walk.index = walk.bound := by
      have := walk.index_le_bound
      omega
    have hmin : min (walk.index + 1) walk.bound = walk.index := by omega
    simp only [step, next?_of_le (Nat.le_of_not_lt h), if_neg h, hmin]

theorem after_eq (walk : Walk) (memories : List Memory) :
    walk.after memories = ⟨walk.handle, walk.registry,
      min (walk.index + memories.length) walk.bound, walk.bound, Nat.min_le_right _ _⟩ := by
  induction memories generalizing walk with
  | nil =>
      have hmin : min (walk.index + 0) walk.bound = walk.index := by
        have := walk.index_le_bound
        omega
      simp only [after, List.foldl_nil, List.length_nil, hmin]
  | cons memory rest ih =>
      have hmin : min (min (walk.index + 1) walk.bound + rest.length) walk.bound
          = min (walk.index + (rest.length + 1)) walk.bound := by
        omega
      rw [after, List.foldl_cons, ← after, ih, step_eq]
      simp only [List.length_cons, hmin]

theorem index_after_start (handle : Nat) (registry : Registry) (memory : Memory)
    (memories : List Memory) :
    ((start handle registry memory).after memories).index
      = min memories.length (registry.size memory) := by
  rw [after_eq]
  simp only [start, Nat.zero_add]

theorem getElem?_answers (walk : Walk) {memories : List Memory} {k : Nat}
    (hk : k < memories.length) :
    (walk.answers memories)[k]? = some
      (if walk.index + k < walk.bound then some (look walk.registry memories[k] (walk.index + k))
        else none) := by
  induction memories generalizing walk k with
  | nil => exact absurd hk (Nat.not_lt_zero k)
  | cons memory rest ih =>
      rw [answers]
      cases k with
      | zero =>
          rw [step_eq]
          rfl
      | succ k =>
          rw [List.getElem?_cons_succ, ih _ (Nat.lt_of_succ_lt_succ hk), step_eq]
          simp only [List.getElem_cons_succ]
          by_cases h : walk.index + (k + 1) < walk.bound
          · have hmin : min (walk.index + 1) walk.bound + k = walk.index + (k + 1) := by omega
            rw [hmin]
          · have hmin : ¬min (walk.index + 1) walk.bound + k < walk.bound := by omega
            rw [if_neg h, if_neg hmin]

/-- Whatever the host does meanwhile, a walk takes one step for each slot that was live when it
started. A step finds what its slot holds at that moment and depends on nothing else, and behind the
last one the walk stays where it is. -/
theorem walk_in_changing_memory (handle : Nat) (registry : Registry) (memory : Memory)
    (memories : List Memory) :
    let walk := start handle registry memory
    let bound := registry.size memory
    let last := walk.after memories
    (∀ k, ∀ hk : k < memories.length,
      (k < bound → ∃ found, (walk.answers memories)[k]? = some (some found) ∧
        Finds registry memories[k] k found) ∧
      (bound ≤ k → (walk.answers memories)[k]? = some none)) ∧
    last.index = min memories.length bound ∧
    last.remaining = bound - min memories.length bound ∧ last.index + last.remaining = bound ∧
    (∀ now other : Memory, registry.count other = registry.count now →
      (last.index < registry.size now →
        registry.slot other last.index = registry.slot now last.index) →
      last.next? other = last.next? now) ∧
    (∀ (handle' : Nat) (registry' : Registry) (memory' : Memory) (memories' : List Memory),
      last.sameAs ((start handle' registry' memory').after memories') = true ↔
        handle = handle' ∧
          min memories.length bound = min memories'.length (registry'.size memory')) := by
  intro walk bound last
  have hindex : last.index = min memories.length bound :=
    index_after_start handle registry memory memories
  have hlast : last = _ := after_eq walk memories
  refine ⟨fun k hk => ?_, hindex, ?_, ?_, fun now other => ?_,
    fun handle' registry' memory' memories' => ?_⟩
  · have hanswer := walk.getElem?_answers hk
    rw [show walk.index + k = k from Nat.zero_add k] at hanswer
    refine ⟨fun hlt => ⟨_, ?_, finds_look registry memories[k] k⟩, fun hle => ?_⟩
    · rw [hanswer, if_pos (show k < walk.bound from hlt)]
      rfl
    · rw [hanswer, if_neg (show ¬k < walk.bound from Nat.not_lt.mpr hle)]
  · rw [remaining, hindex]
    exact congrArg (· - _) (congrArg Walk.bound hlast)
  · have hbound : last.bound = bound := congrArg Walk.bound hlast
    rw [remaining, hbound]
    exact Nat.add_sub_of_le (hbound ▸ last.index_le_bound)
  · have hregistry : last.registry = registry := congrArg Walk.registry hlast
    rw [← hregistry]
    exact next?_congr
  · have hhandle : last.handle = handle := congrArg Walk.handle hlast
    have hhandle' : ((start handle' registry' memory').after memories').handle = handle' :=
      congrArg Walk.handle (after_eq _ _)
    rw [sameAs, Bool.and_eq_true, beq_iff_eq, beq_iff_eq, hhandle, hhandle', hindex,
      index_after_start]

def twoSlots : Memory :=
  (Memory.zeroed.write (0x10 : Address) (⟨0x100, 2, 2⟩ : HostArray)).store (0x100 : Address)
    ([0x5000, 0x6000].flatMap (Stored.encode : Address → List UInt8))

def trimmedSlots : Memory :=
  twoSlots.write (memberAddress .array .count 0x10) (1 : Int32)

theorem walk_over_trimmed_slots :
    let walk := start 0 ⟨.willow, 0x10⟩ twoSlots
    let memories := [twoSlots, trimmedSlots, twoSlots]
    (walk.answers memories)[1]? = some (some none) ∧ (walk.answers memories)[2]? = some none ∧
      (walk.after memories).index = 2 := by
  intro walk memories
  have hsize : Registry.size ⟨.willow, 0x10⟩ twoSlots = 2 := by decide +kernel
  have htrimmed : Registry.size ⟨.willow, 0x10⟩ trimmedSlots = 1 := by decide +kernel
  obtain ⟨hitems, hindex, -⟩ := walk_in_changing_memory 0 ⟨.willow, 0x10⟩ twoSlots memories
  rw [hsize] at hitems hindex
  refine ⟨?_, (hitems 2 (by decide)).2 (by decide), hindex⟩
  obtain ⟨found, hanswer, hfound⟩ := (hitems 1 (by decide)).1 (by decide)
  cases found with
  | none => exact hanswer
  | some object =>
      have hlive : 1 < Registry.size ⟨.willow, 0x10⟩ trimmedSlots := ((hfound object).mp rfl).1
      rw [htrimmed] at hlive
      exact absurd hlive (Nat.lt_irrefl 1)

end Walk

end HostBridge
