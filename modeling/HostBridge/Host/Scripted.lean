import HostBridge.Host.Hook

namespace HostBridge

structure ScriptedHost where
  registry : Address
  /-- What every construction answers. -/
  constructed : Address
  names : List (List Utf16.Unit)
  objects : List (List Utf16.Unit × Address)
  packages : List (List Utf16.Unit × Address)
  pathName : List Utf16.Unit
  /-- Longer blocks are refused. -/
  longestBlock : Nat
  nextBlock : Address
  isConsoleReady : Bool
  isEchoing : Bool
  deriving DecidableEq, Repr

namespace ScriptedHost

/-- A host without names and objects that never prints. -/
def quiet : ScriptedHost where
  registry := 0x100
  constructed := 0
  names := []
  objects := []
  packages := []
  pathName := []
  longestBlock := 65536
  nextBlock := 0x300000
  isConsoleReady := false
  isEchoing := false

def noName : NameEntry :=
  .narrow [0x4E, 0x6F, 0x6E, 0x65]

/-- The next block if it is not too long; blocks start at multiples of sixteen. -/
def allocate (host : ScriptedHost) (length : Nat) : Address × ScriptedHost :=
  if host.longestBlock < length then (0, host)
  else (host.nextBlock,
    { host with nextBlock := host.nextBlock + UInt64.ofNat (16 * ((length + 15) / 16)) })

/-- The first index of a name, and the first index of all if there is none. -/
def nameIndex (host : ScriptedHost) (text : List Utf16.Unit) : Int32 :=
  Int32.ofNat ((host.names.findIdx? (· == text)).getD 0)

def entry (host : ScriptedHost) (name : HostName) : NameEntry :=
  if name.index < 0 then noName
  else
    match host.names[name.index.toInt.toNat]? with
    | none => noName
    | some units =>
      if units.all (· < 256) then .narrow (units.map UInt16.toUInt8) else .wide units

def lookUp (table : List (List Utf16.Unit × Address)) (text : List Utf16.Unit) : Address :=
  (table.lookup text).getD 0

/-- Serves a call. Reallocation allocates anew and copies nothing. -/
def serve (call : HostCall) (host : ScriptedHost) (memory : Memory) :
    call.Answer × ScriptedHost × Memory :=
  match call with
  | .allocate length =>
    let (block, host) := host.allocate length
    (block, host, memory)
  | .reallocate _ length =>
    let (block, host) := host.allocate length
    (block, host, memory)
  | .construct .. => (host.constructed, host, memory)
  | .find _ name => (lookUp host.objects name, host, memory)
  | .loadPackage name _ => (lookUp host.packages name, host, memory)
  | .internName text number => ((⟨host.nameIndex text, number⟩ : HostName), host, memory)
  | .nameEntry name => (host.entry name, host, memory)
  | .pathName _ => (host.pathName, host, memory)
  | .release _ => ((), host, memory)
  | .stepFrame .. => ((), host, memory)
  | .dispatch .. => ((), host, memory)
  | .print _ => ((), host, memory)
  | .assignText .. => ((), host, memory)
  | .assignSoft .. => ((), host, memory)
  | .assignLazy .. => ((), host, memory)

/-- The calls that a host sees when it serves one: a reallocation calls the allocator in turn. -/
def seenCalls : HostCall → List HostCall
  | .reallocate block length => [.reallocate block length, .allocate length]
  | call => [call]

def echo : Event := ⟨.error, "echo", []⟩

def hook (host : ScriptedHost) (flavour : Flavour) : Hook ScriptedHost where
  flavour := flavour
  registry := ⟨.oak, host.registry⟩
  offsets := OffsetTable.ofFlavour .oak
  isConsoleReady host := host.isConsoleReady
  echoes host := if host.isEchoing then [echo] else []
  serve := serve

end ScriptedHost

end HostBridge
