import HostBridge.Memory.Basic
import HostBridge.Name

namespace HostBridge

inductive HostCall where
  | allocate (length : Nat)
  | reallocate (block : Address) (length : Nat)
  | release (block : Address)
  | construct (hostClass outer : Address) (name : HostName) (flags : UInt64) (template : Address)
  | find (hostClass : Address) (name : List Utf16.Unit)
  | loadPackage (name : List Utf16.Unit) (flags : UInt32)
  | internName (text : List Utf16.Unit) (number : Int32)
  | nameEntry (name : HostName)
  | stepFrame (frame object parameter : Address)
  | dispatch (object function parameters : Address)
  | print (text : List Utf16.Unit)
  | pathName (object : Address)
  /-- Sets a host text to the same text in every language. -/
  | assignText (target : Address) (text : List Utf16.Unit)
  | assignSoft (pointer object : Address)
  | assignLazy (pointer object : Address)
  deriving DecidableEq, Repr

namespace HostCall

def Answer : HostCall → Type
  | allocate _ => Address
  | reallocate .. => Address
  | release _ => Unit
  | construct .. => Address
  | find .. => Address
  | loadPackage .. => Address
  | internName .. => HostName
  | nameEntry _ => NameEntry
  | stepFrame .. => Unit
  | dispatch .. => Unit
  | print _ => Unit
  | pathName _ => List Utf16.Unit
  | assignText .. => Unit
  | assignSoft .. => Unit
  | assignLazy .. => Unit

end HostCall

end HostBridge
