import HostBridge.Host.Call
import HostBridge.Layout.OffsetTable
import HostBridge.Log.Event
import HostBridge.Registry.Basic

namespace HostBridge

structure Hook (σ : Type) where
  /-- The layout family that the hook was written against. -/
  flavour : Flavour
  registry : Registry
  offsets : OffsetTable
  isConsoleReady : σ → Bool
  /-- The events that the host's console routine raises when it has taken a text. -/
  echoes : σ → List Event
  serve : (call : HostCall) → σ → Memory → call.Answer × σ × Memory

end HostBridge
