import HostBridge.HostArray
import HostBridge.Name

namespace HostBridge

inductive Datum where
  | number (value : Int)
  | address (value : Address)
  | truth (value : Bool)
  | name (value : HostName)
  | array (value : HostArray)
  | bytes (value : List UInt8)
  deriving DecidableEq, Repr

inductive Cell where
  | u8
  | u16
  | u32
  | u64
  | i32
  | i64
  | truth
  | address
  | name
  | array
  /-- Bytes that the host keeps to itself. -/
  | reserved (count : Nat)
  deriving DecidableEq, Repr

namespace Cell

def size : Cell → Nat
  | .u8 | .truth => 1
  | .u16 => 2
  | .u32 | .i32 => 4
  | .u64 | .i64 | .address | .name => 8
  | .array => 16
  | .reserved count => count

def alignment : Cell → Nat
  | .u8 | .truth | .reserved _ => 1
  | .u16 => 2
  | .u32 | .i32 | .name => 4
  | .u64 | .i64 | .address | .array => 8

def load (cell : Cell) (memory : Memory) (address : Address) : Datum :=
  match cell with
  | .u8 => .number (memory.read address : UInt8).toNat
  | .u16 => .number (memory.read address : UInt16).toNat
  | .u32 => .number (memory.read address : UInt32).toNat
  | .u64 => .number (memory.read address : UInt64).toNat
  | .i32 => .number (memory.read address : Int32).toInt
  | .i64 => .number (memory.read address : Int64).toInt
  | .truth => .truth (memory.read address)
  | .address => .address (memory.read address)
  | .name => .name (memory.read address)
  | .array => .array (memory.read address)
  | .reserved count => .bytes (memory.bytesAt address count)

/-- The image of a number in a cell of `width` bytes whose values start at `least`. -/
def numberImage? (width : Nat) (least : Int) (value : Int) : Option (List UInt8) :=
  if least ≤ value ∧ value < least + Bytes.count width then
    some (Bytes.ofValue width (value % Bytes.count width).toNat)
  else
    none

/-- The bytes that store a datum, if the cell can hold it. -/
def image? : Cell → Datum → Option (List UInt8)
  | .u8, .number value => numberImage? 1 0 value
  | .u16, .number value => numberImage? 2 0 value
  | .u32, .number value => numberImage? 4 0 value
  | .u64, .number value => numberImage? 8 0 value
  | .i32, .number value => numberImage? 4 Int32.minValue.toInt value
  | .i64, .number value => numberImage? 8 Int64.minValue.toInt value
  | .truth, .truth value => some (Stored.encode value)
  | .address, .address value => some (Stored.encode value)
  | .name, .name value => some (Stored.encode value)
  | .array, .array value => some (Stored.encode value)
  | .reserved count, .bytes value => if value.length = count then some value else none
  | _, _ => none

end Cell

end HostBridge
