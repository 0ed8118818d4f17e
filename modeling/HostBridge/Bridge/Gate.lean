import HostBridge.Error
import HostBridge.Host.Hook

namespace HostBridge

inductive GateState where
  | uninitialized
  | initializing
  | ready
  deriving DecidableEq, Repr

def GateState.name : GateState → String
  | .uninitialized => "Uninitialized"
  | .initializing => "Initializing"
  | .ready => "Ready"

inductive Phase where
  | bootstrap
  | substrate
  | create
  | install
  | announce
  deriving DecidableEq, Repr

def Phase.name : Phase → String
  | .bootstrap => "bootstrap"
  | .substrate => "substrate"
  | .create => "create"
  | .install => "hook"
  | .announce => "post_init"

structure Gate (σ : Type) where
  state : GateState
  hook : Option (Hook σ)

/-- What can be seen of a gate: its state, and whether a hook can be reached through it. -/
structure GateView where
  state : GateState
  holdsHook : Bool
  deriving DecidableEq, Repr

def GateView.name (view : GateView) : String := view.state.name

namespace Gate

variable {σ : Type}

def view (gate : Gate σ) : GateView := ⟨gate.state, gate.hook.isSome⟩

def closed : Gate σ := ⟨.uninitialized, none⟩

def isInitialized (gate : Gate σ) : Bool :=
  gate.state == .ready

def bound (gate : Gate σ) : Except Error (Hook σ) :=
  match gate.hook with
  | some hook => .ok hook
  | none => .error .notInitialized

def isConsoleReady (gate : Gate σ) (host : σ) : Bool :=
  gate.hook.any fun hook => hook.isConsoleReady host

def bind (hook : Hook σ) : Gate σ := ⟨.ready, some hook⟩

end Gate

end HostBridge
