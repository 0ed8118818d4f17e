import HostBridge.Bridge.Basic
import HostBridge.Version

/-!
# Startup

`start` makes one attempt to bind a hook: it prepares the process, then has the factory go
through its phases, and binds the hook when all have succeeded. An attempt that fails leaves the
gate as it was, and one on a bound gate does nothing. `prepare` is what a process does first: it
loads the configuration, starts logging and logs the banner; configuration and logging are fixed by
the first time.
-/

namespace HostBridge

structure Factory (σ : Type) where
  /-- How the preparation of the call-site redirection ends, if the factory has any. -/
  substrate : Option (Except Error Unit)
  hook : Hook σ
  install : Except Error Unit

namespace Bridge

variable {σ : Type}

def configuration (bridge : Bridge σ) : Configuration :=
  bridge.loaded.getD Configuration.initial

def loadConfiguration (bridge : Bridge σ) : Except Error Configuration × Bridge σ :=
  match bridge.loaded with
  | some configuration => (.ok configuration, bridge)
  | none =>
    match bridge.environment.load with
    | .ok configuration => (.ok configuration, { bridge with loaded := some configuration })
    | .error error => (.error error, bridge)

def logFileUnavailable (path reason : String) : Event where
  level := .warn
  message := "log file unavailable, logging to the console only"
  fields := [("path", .plain path), ("error", .plain reason)]

def subscribed (threshold : Level) : Subscriber → Subscriber
  | .nobody => .console threshold
  | other => other

/-- Starts logging unless it has been started before: creates the log file, and asks for the log
events. -/
def startLogging (bridge : Bridge σ) (settings : Settings) (directory : String) : Bridge σ :=
  match bridge.logging with
  | some _ => bridge
  | none =>
    let path := settings.logPath directory
    let bridge := { bridge with
      subscriber := subscribed settings.consoleLevel bridge.subscriber
      logging := some (bridge.subscriber = Subscriber.nobody : Bool) }
    match bridge.environment.files.write path ByteArray.empty with
    | .ok files => { bridge with environment := { bridge.environment with files := files } }
    | .error obstacle => bridge.raise (logFileUnavailable path obstacle.message)

/-- Whether the bridge receives the log events since logging was started. -/
def isLogging (bridge : Bridge σ) : Bool :=
  bridge.logging == some true

def subscribeForeign (bridge : Bridge σ) : Bool × Bridge σ :=
  match bridge.subscriber with
  | .nobody => (true, { bridge with subscriber := .foreign })
  | _ => (false, bridge)

def notice (message : String) : Event := ⟨.info, message, []⟩

def prepare (bridge : Bridge σ) : Except Error Unit × Bridge σ :=
  match bridge.loadConfiguration with
  | (.error error, bridge) => (.error error, bridge)
  | (.ok configuration, bridge) =>
    let bridge := bridge.startLogging configuration.settings bridge.environment.baseDirectory
    let bridge := bridge.raise (notice Version.banner)
    let underline := String.ofList (List.replicate Version.banner.utf8ByteSize '=')
    (.ok (), bridge.raise (notice underline))

def setState (bridge : Bridge σ) (state : GateState) : Bridge σ :=
  { bridge with gate := { bridge.gate with state := state } }

def hookInstalled (flavour : Flavour) : Event where
  level := .info
  message := "hook installed"
  fields := [("flavour", .plain flavour.name)]

def initializationFailed (error : Error) : Event where
  level := .error
  message := "unrealsdk initialization failed"
  fields := [("error", .plain error.message)]

def prepareSubstrate (factory : Factory σ) (bridge : Bridge σ) : Except Error Unit × Bridge σ :=
  match factory.substrate with
  | none => (.ok (), bridge)
  | some outcome => (outcome, bridge.enter .substrate)

/-- Creates a hook and installs it; a hook for another layout family is refused. -/
def installHook (factory : Factory σ) (bridge : Bridge σ) : Except Error Unit × Bridge σ :=
  let bridge := bridge.enter .create
  if factory.hook.flavour = Flavour.active then
    let bridge := bridge.enter .install
    match factory.install with
    | .error error => (.error error, bridge)
    | .ok () => (.ok (), bridge.raise (hookInstalled factory.hook.flavour))
  else (.error (.layoutMismatch factory.hook.flavour Flavour.active), bridge)

def andThen (first second : Bridge σ → Except Error Unit × Bridge σ) (bridge : Bridge σ) :
    Except Error Unit × Bridge σ :=
  match first bridge with
  | (.ok (), bridge) => second bridge
  | failed => failed

def build (preparation : Bridge σ → Except Error Unit × Bridge σ) (factory : Factory σ) :
    Bridge σ → Except Error Unit × Bridge σ :=
  andThen preparation (andThen (prepareSubstrate factory) (installHook factory))

/-- Attempts to bind a hook after a preparation of the process; answers whether it did. -/
def start (preparation : Bridge σ → Except Error Unit × Bridge σ) (factory : Factory σ)
    (bridge : Bridge σ) : Except Error Bool × Bridge σ :=
  match bridge.gate.hook with
  | some _ => (.ok false, bridge)
  | none =>
    match build preparation factory (bridge.setState .initializing) with
    | (.error error, bridge) =>
      (.error error, (bridge.setState .uninitialized).raise (initializationFailed error))
    | (.ok (), bridge) =>
      (.ok true, { bridge with gate := Gate.bind factory.hook }.enter .announce)

def scriptedPreparation (outcome : Except Error Unit) (bridge : Bridge σ) :
    Except Error Unit × Bridge σ :=
  (outcome, bridge.enter .bootstrap)

end Bridge

end HostBridge
