import HostBridge.Registry.Basic

namespace HostBridge

/-- A walk over the slots of a view. Two views of one registry have different handles. -/
structure Walk where
  handle : Nat
  registry : Registry
  /-- The slot that comes next. -/
  index : Nat
  bound : Nat
  index_le_bound : index ≤ bound := by omega
  deriving DecidableEq, Repr

namespace Walk

def start (handle : Nat) (registry : Registry) (memory : Memory) : Walk where
  handle := handle
  registry := registry
  index := 0
  bound := registry.size memory

def remaining (walk : Walk) : Nat :=
  walk.bound - walk.index

/-- The object in the next slot and the walk after it; `none` at the end, for ever. -/
def next? (walk : Walk) (memory : Memory) : Option (Option Address × Walk) :=
  if h : walk.index < walk.bound then
    let found :=
      if walk.registry.size memory ≤ walk.index then none
      else Registry.nonNull? (walk.registry.slot memory walk.index)
    some (found, { walk with index := walk.index + 1, index_le_bound := h })
  else
    none

def sameAs (left right : Walk) : Bool :=
  left.handle == right.handle && left.index == right.index

/-- What so many visits in a row find, with the memory as it is: the content of a slot each, `none`
past the end. -/
def visit (memory : Memory) : Nat → Walk → List (Option (Option Address)) × Walk
  | 0, walk => ([], walk)
  | count + 1, walk =>
    match walk.next? memory with
    | none =>
      let (found, last) := visit memory count walk
      (none :: found, last)
    | some (slot, next) =>
      let (found, last) := visit memory count next
      (some slot :: found, last)

def collect (registry : Registry) (memory : Memory) : List (Option Address) :=
  let walk := start 0 registry memory
  (visit memory walk.remaining walk).1.filterMap id

end Walk

end HostBridge
