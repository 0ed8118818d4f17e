import HostBridge.Memory.Stored

namespace HostBridge

inductive Scalar where
  | u8 | i8 | u16 | i16 | u32 | i32 | u64 | i64 | f32 | f64
  deriving DecidableEq, Repr

namespace Scalar

def all : List Scalar := [.u8, .i8, .u16, .i16, .u32, .i32, .u64, .i64, .f32, .f64]

def name : Scalar → String
  | .u8 => "u8"
  | .i8 => "i8"
  | .u16 => "u16"
  | .i16 => "i16"
  | .u32 => "u32"
  | .i32 => "i32"
  | .u64 => "u64"
  | .i64 => "i64"
  | .f32 => "f32"
  | .f64 => "f64"

def ofName? (text : String) : Option Scalar :=
  all.find? fun scalar => scalar.name == text

abbrev Carrier : Scalar → Type
  | .u8 => UInt8
  | .i8 => Int8
  | .u16 => UInt16
  | .i16 => Int16
  | .u32 => UInt32
  | .i32 => Int32
  | .u64 => UInt64
  | .i64 => Int64
  | .f32 => Binary32
  | .f64 => Binary64

instance (scalar : Scalar) : Stored scalar.Carrier :=
  match scalar with
  | .u8 => inferInstanceAs (Stored UInt8)
  | .i8 => inferInstanceAs (Stored Int8)
  | .u16 => inferInstanceAs (Stored UInt16)
  | .i16 => inferInstanceAs (Stored Int16)
  | .u32 => inferInstanceAs (Stored UInt32)
  | .i32 => inferInstanceAs (Stored Int32)
  | .u64 => inferInstanceAs (Stored UInt64)
  | .i64 => inferInstanceAs (Stored Int64)
  | .f32 => inferInstanceAs (Stored Binary32)
  | .f64 => inferInstanceAs (Stored Binary64)

instance (scalar : Scalar) : Stored.Exact scalar.Carrier :=
  match scalar with
  | .u8 => inferInstanceAs (Stored.Exact UInt8)
  | .i8 => inferInstanceAs (Stored.Exact Int8)
  | .u16 => inferInstanceAs (Stored.Exact UInt16)
  | .i16 => inferInstanceAs (Stored.Exact Int16)
  | .u32 => inferInstanceAs (Stored.Exact UInt32)
  | .i32 => inferInstanceAs (Stored.Exact Int32)
  | .u64 => inferInstanceAs (Stored.Exact UInt64)
  | .i64 => inferInstanceAs (Stored.Exact Int64)
  | .f32 => inferInstanceAs (Stored.Exact Binary32)
  | .f64 => inferInstanceAs (Stored.Exact Binary64)

def size (scalar : Scalar) : Nat := Stored.width scalar.Carrier

def bits (scalar : Scalar) (value : scalar.Carrier) : Nat :=
  Bytes.value (Stored.encode value)

def ofBits (scalar : Scalar) (number : Nat) : scalar.Carrier :=
  Stored.decode (Bytes.ofValue scalar.size number)

end Scalar

end HostBridge
