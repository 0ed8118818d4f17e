namespace HostBridge

inductive Flavour where
  | willow
  | oak
  deriving DecidableEq, Repr

namespace Flavour

def all : List Flavour := [.willow, .oak]

def name : Flavour → String
  | .willow => "willow"
  | .oak => "oak"

def tag : Flavour → UInt8
  | .willow => 0
  | .oak => 1

/-- The family of 64-bit hosts, the only ones this build binds to. -/
def active : Flavour := .oak

def ofName? (text : String) : Option Flavour :=
  all.find? fun flavour => flavour.name == text

end Flavour

end HostBridge
