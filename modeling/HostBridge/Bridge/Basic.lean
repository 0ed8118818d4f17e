import HostBridge.Bridge.Gate
import HostBridge.FileTree
import HostBridge.Log.Console
import HostBridge.Settings.Configuration
import HostBridge.Settings.Paths

/-!
# The bridge

The bridge is all that a process shares with its host: the gate and the hook in it, the memory, the
configuration, the receiver of log events and the blocks that are not yet released. Every step into
the host is kept in `steps`.
-/

namespace HostBridge

structure Environment where
  home : Option String
  baseFile : Option String
  executableDirectory : String
  files : FileTree

namespace Environment

def baseDirectory (environment : Environment) : String :=
  Settings.baseDirectory environment.home environment.executableDirectory

def load (environment : Environment) : Except Error Configuration :=
  let (base, user) := Settings.paths environment.baseFile environment.baseDirectory
  Configuration.load base (environment.files.file base) user (environment.files.file user)

end Environment

/-- Who receives the log events of a process; the first to ask for them does. -/
inductive Subscriber where
  | nobody
  | foreign
  /-- The bridge, which shows events on the host's console from a threshold on. -/
  | console (threshold : Level)
  deriving DecidableEq, Repr

/-- A step into the host: a phase of an attempt to bind a hook, with what is seen of the gate in it,
or a call. -/
inductive HostStep where
  | phase (phase : Phase) (seen : GateView)
  | call (call : HostCall)
  deriving DecidableEq, Repr

structure Bridge (σ : Type) where
  gate : Gate σ
  host : σ
  memory : Memory
  steps : List HostStep
  environment : Environment
  loaded : Option Configuration
  subscriber : Subscriber
  /-- Once logging has been started, whether the bridge became the subscriber. -/
  logging : Option Bool
  isWriting : Bool
  /-- The blocks that the host handed out through the bridge and that are not released. -/
  blocks : List Address

namespace Bridge

variable {σ : Type}

def fresh (host : σ) (environment : Environment) : Bridge σ where
  gate := Gate.closed
  host := host
  memory := Memory.zeroed
  steps := []
  environment := environment
  loaded := none
  subscriber := .nobody
  logging := none
  isWriting := false
  blocks := []

def isInitialized (bridge : Bridge σ) : Bool :=
  bridge.gate.isInitialized

def isConsoleReady (bridge : Bridge σ) : Bool :=
  bridge.gate.isConsoleReady bridge.host

def enter (bridge : Bridge σ) (phase : Phase) : Bridge σ :=
  { bridge with steps := bridge.steps ++ [.phase phase bridge.gate.view] }

def ask (bridge : Bridge σ) (hook : Hook σ) (call : HostCall) : call.Answer × Bridge σ :=
  let (answer, host, memory) := hook.serve call bridge.host bridge.memory
  (answer, { bridge with
    host := host, memory := memory, steps := bridge.steps ++ [.call call] })

/-- The host's console; it receives nothing while no hook is bound. -/
def sink : Sink (Bridge σ) where
  isReady bridge := bridge.isConsoleReady
  receive text bridge :=
    match bridge.gate.hook with
    | some hook => (bridge.ask hook (.print text)).2
    | none => bridge
  echoes bridge :=
    match bridge.gate.hook with
    | some hook => hook.echoes bridge.host
    | none => []

/-- The least severe level that is shown, if the bridge receives events at all. -/
def threshold (bridge : Bridge σ) : Option Level :=
  match bridge.subscriber with
  | .console threshold => some threshold
  | _ => none

def onConsole (bridge : Bridge σ) (work : Console (Bridge σ) → Console (Bridge σ)) : Bridge σ :=
  let console := work ⟨bridge, bridge.isWriting⟩
  { console.state with isWriting := console.isWriting }

def raise (bridge : Bridge σ) (event : Event) : Bridge σ :=
  bridge.onConsole (sink.raise bridge.threshold event)

def print (bridge : Bridge σ) (text : List Utf16.Unit) : Bridge σ :=
  bridge.onConsole (sink.deliver bridge.threshold text)

end Bridge

end HostBridge
