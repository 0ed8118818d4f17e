import HostBridge.Layout.Cell

/-!
# Record layouts

Members are placed one after the other, each at the next multiple of its alignment, which the
packing of the record caps. A record is closed by rounding its size up to its own alignment, and a
derived record starts with its base, closed, at offset zero.
-/

namespace HostBridge

/-- The least multiple of `unit` that is not below `offset`. -/
def roundUp (offset unit : Nat) : Nat :=
  (offset + unit - 1) / unit * unit

/-- A member in declaration order; those without a label are the host's own affair. -/
structure Member (Label : Type) where
  label : Option Label
  cell : Cell
  deriving DecidableEq, Repr

structure Placed (Label : Type) where
  label : Option Label
  cell : Cell
  offset : Nat
  deriving DecidableEq, Repr

structure Record (Label : Type) where
  members : List (Placed Label)
  size : Nat
  alignment : Nat
  deriving DecidableEq, Repr

namespace Record

variable {Label : Type}

def empty : Record Label := ⟨[], 0, 1⟩

def push (packing : Nat) (record : Record Label) (member : Member Label) : Record Label :=
  let unit := min packing member.cell.alignment
  let offset := roundUp record.size unit
  { members := record.members ++ [⟨member.label, member.cell, offset⟩]
    size := offset + member.cell.size
    alignment := max record.alignment unit }

def close (record : Record Label) : Record Label :=
  { record with size := roundUp record.size record.alignment }

def extend (packing : Nat) (record : Record Label) (members : List (Member Label)) :
    Record Label :=
  (members.foldl (push packing) record).close

def find? [BEq Label] (record : Record Label) (label : Label) : Option (Placed Label) :=
  record.members.find? fun placed => placed.label == some label

/-- The offset of a label's member; zero for a label that the record does not have. -/
def offset [BEq Label] (record : Record Label) (label : Label) : Nat :=
  ((record.find? label).map Placed.offset).getD 0

end Record

def Placed.address {Label : Type} (placed : Placed Label) (start : Address) : Address :=
  start + UInt64.ofNat placed.offset

namespace Record

variable {Label : Type} [BEq Label]

def get? (record : Record Label) (label : Label) (memory : Memory) (start : Address) :
    Option Datum :=
  (record.find? label).map fun placed => placed.cell.load memory (placed.address start)

def set? (record : Record Label) (label : Label) (datum : Datum) (memory : Memory)
    (start : Address) : Option Memory := do
  let placed ← record.find? label
  let image ← placed.cell.image? datum
  return memory.store (placed.address start) image

end Record

end HostBridge
