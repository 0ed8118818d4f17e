import HostBridge.Proofs.Bridge.Output
import HostBridge.Proofs.Bridge.Startups
import HostBridge.Proofs.Bridge.Surfaces

/-!
# Before a hook is bound

A process takes the steps of an attempt to bind a hook one by one, and in between anything may
happen: calls of either surface, log events, and what the host does on its own. Whatever has been
tried, and however far an attempt has come, nothing of this reaches the host before a hook is bound.
-/

namespace HostBridge

variable {σ : Type}

inductive LibraryCall where
  | registry
  | offsets
  | allocate (length : Nat)
  | reallocate (block : Address) (length : Nat)
  | release (block : Address)
  | construct (hostClass outer : Address) (name? : Option HostName) (flags : UInt64)
    (template : Address)
  | find (hostClass : Address) (name : List Utf16.Unit)
  | loadPackage (name : List Utf16.Unit) (flags : UInt32)
  | internName (text : List Utf16.Unit) (number : Int32)
  | nameEntry (name : HostName)
  | stepFrame (frame object parameter : Address)
  | dispatch (object function parameters : Address)
  | pathName (object : Address)
  | assignText (target : Address) (text : List Utf16.Unit)
  | assignSoft (pointer object : Address)
  | assignLazy (pointer object : Address)

def LibraryCall.Answer : LibraryCall → Type
  | registry => Registry
  | offsets => OffsetTable
  | allocate _ | reallocate .. | construct .. => Address
  | find .. | loadPackage .. => Option Address
  | internName .. => HostName
  | nameEntry _ => NameEntry
  | pathName _ => HostText
  | release _ | stepFrame .. | dispatch .. | assignText .. | assignSoft .. | assignLazy .. => Unit

/-- An exported call with a null pointer where it would read or write something. -/
inductive NullCall where
  | resolve
  | setReference (object : Address)
  | release
  | internName (value : Option (List Utf16.Unit)) (number : Int32)
  | nameEntry (name : HostName)

def NullCall.fallback : NullCall → Reply
  | resolve => .address 0
  | setReference _ => .weak false none
  | release => .nothing
  | internName .. => .name none
  | nameEntry _ => .entry none

namespace Bridge

open Exports (mapAnswer)

def library (bridge : Bridge σ) : (call : LibraryCall) → Except Error call.Answer × Bridge σ
  | .registry => (bridge.registry, bridge)
  | .offsets => (bridge.offsets, bridge)
  | .allocate length => bridge.allocate length
  | .reallocate block length => bridge.reallocate block length
  | .release block => bridge.release block
  | .construct hostClass outer name? flags template =>
    bridge.construct hostClass outer name? flags template
  | .find hostClass name => bridge.find? hostClass name
  | .loadPackage name flags => bridge.loadPackage? name flags
  | .internName text number => bridge.internName text number
  | .nameEntry name => bridge.nameEntry name
  | .stepFrame frame object parameter => bridge.stepFrame frame object parameter
  | .dispatch object function parameters => bridge.dispatch object function parameters
  | .pathName object => bridge.pathName object
  | .assignText target text => bridge.assignText target text
  | .assignSoft pointer object => bridge.assignSoft pointer object
  | .assignLazy pointer object => bridge.assignLazy pointer object

def exportedNull (bridge : Bridge σ) : NullCall → Reply × Bridge σ
  | .resolve => mapAnswer .address (Exports.resolve none bridge)
  | .setReference object =>
    mapAnswer (fun (isSet, weak?) => .weak isSet weak?) (Exports.setReference none object bridge)
  | .release => (.nothing, Exports.release 0 bridge)
  | .internName value number => mapAnswer .name (Exports.internName none value number bridge)
  | .nameEntry name => mapAnswer .entry (Exports.nameEntry false name bridge)

variable {bridge : Bridge σ}

theorem bound_of_unbound (h : bridge.gate.hook = none) :
    bridge.gate.bound = .error .notInitialized := by
  rw [Gate.bound, h]

theorem registry_of_unbound (h : bridge.gate.hook = none) :
    bridge.registry = .error .notInitialized := by
  rw [registry, bound_of_unbound h]
  rfl

theorem library_of_unbound (h : bridge.gate.hook = none) (call : LibraryCall) :
    bridge.library call = (.error .notInitialized, bridge) := by
  cases call with
  | registry => exact congrArg (·, bridge) (registry_of_unbound h)
  | offsets =>
      rw [library, offsets, bound_of_unbound h]
      rfl
  | allocate length => exact allocate_of_unbound h length
  | reallocate block length =>
      rw [library, reallocate, call_of_unbound h]
      rfl
  | release block =>
      rw [library, release, call_of_unbound h]
      rfl
  | pathName object =>
      rw [library, pathName, call_of_unbound h]
      rfl
  | find hostClass name =>
      rw [library, find?, call_of_unbound h]
      rfl
  | loadPackage name flags =>
      rw [library, loadPackage?, call_of_unbound h]
      rfl
  | construct | internName | nameEntry | stepFrame | dispatch | assignText | assignSoft
  | assignLazy => exact call_of_unbound h _

theorem isInitialized_of_state (h : bridge.gate.state ≠ .ready) : bridge.isInitialized = false := by
  rw [isInitialized, Gate.isInitialized]
  exact beq_eq_false_iff_ne.mpr h

/-- An exported call stands for one that fails, or for one that answers the fallback anyway. -/
theorem counterpart_of_unbound (h : bridge.gate.hook = none) (hstate : bridge.gate.state ≠ .ready)
    (call : ExportedCall) :
    bridge.counterpart call = (.error .notInitialized, bridge) ∨
      bridge.counterpart call = (.ok call.fallback, bridge) := by
  have hlibrary (call : LibraryCall) (reply : call.Answer → Reply) :
      tell reply (bridge.library call) = (.error .notInitialized, bridge) := by
    rw [library_of_unbound h]
    rfl
  have hregistry := registry_of_unbound h
  cases call with
  | isInitialized =>
      rw [counterpart, isInitialized_of_state hstate]
      exact .inr rfl
  | isConsoleReady =>
      rw [counterpart, isConsoleReady_of_unbound h]
      exact .inr rfl
  | print text =>
      rw [counterpart, print_of_unbound h]
      exact .inr rfl
  | registry | registrySize | objectAt | resolve | setReference =>
      rw [counterpart, hregistry]
      exact .inl rfl
  | offsets => exact .inl (hlibrary .offsets _)
  | allocate length => exact .inl (hlibrary (.allocate length) _)
  | reallocate block length => exact .inl (hlibrary (.reallocate block length) _)
  | release block => exact .inl (hlibrary (.release block) _)
  | construct hostClass outer name? flags template =>
      exact .inl (hlibrary (.construct hostClass outer name? flags template) _)
  | find hostClass name => exact .inl (hlibrary (.find hostClass name.text) _)
  | loadPackage name flags => exact .inl (hlibrary (.loadPackage name.text flags) _)
  | internName name value number =>
      exact .inl (hlibrary (.internName (WideText.terminated value) number) _)
  | nameEntry name => exact .inl (hlibrary (.nameEntry name) _)
  | stepFrame frame object parameter =>
      exact .inl (hlibrary (.stepFrame frame object parameter) _)
  | dispatch object function parameters =>
      exact .inl (hlibrary (.dispatch object function parameters) _)
  | pathName object hasPlace => exact .inl (hlibrary (.pathName object) _)
  | assignText target text => exact .inl (hlibrary (.assignText target text.text) _)
  | assignSoft pointer object => exact .inl (hlibrary (.assignSoft pointer object) _)
  | assignLazy pointer object => exact .inl (hlibrary (.assignLazy pointer object) _)

theorem exported_of_unbound (h : bridge.gate.hook = none) (hstate : bridge.gate.state ≠ .ready)
    (call : ExportedCall) : bridge.exported call = (call.fallback, bridge) := by
  have hannounce : bridge.announce call = bridge := by
    rw [announce]
    cases call.announcement? with
    | none => rfl
    | some event => exact raise_of_unbound h event
  rw [exported_eq_report, hannounce]
  rcases counterpart_of_unbound h hstate call with hfails | hanswers
  · -- The error is logged, and no console shows it.
    rw [hfails]
    exact congrArg (Prod.mk call.fallback) (raise_of_unbound h _)
  · rw [hanswers]
    rfl

theorem exportedNull_eq (bridge : Bridge σ) (call : NullCall) :
    bridge.exportedNull call = (call.fallback, bridge) := by
  cases call with
  | release => exact congrArg (Prod.mk Reply.nothing) (if_pos rfl)
  | resolve | setReference | internName | nameEntry => rfl

end Bridge

/-- How far an attempt to bind a hook has come, if one is under way. -/
inductive Stage (σ : Type) where
  | idle
  | loading (factory : Factory σ)
  | logging (factory : Factory σ) (configuration : Configuration)
  | greeting (factory : Factory σ)
  | substrate (factory : Factory σ) (outcome : Except Error Unit)
  | create (factory : Factory σ)
  | install (factory : Factory σ)
  /-- All phases have succeeded, and the hook is about to be bound. -/
  | installed (factory : Factory σ)
  | announce
  | failed (error : Error)

/-- What happens in a process besides the steps of an attempt. -/
inductive Deed (σ : Type) where
  | library (call : LibraryCall)
  | print (text : List Utf16.Unit)
  | exported (call : ExportedCall)
  | exportedNull (call : NullCall)
  | raise (event : Event)
  | load
  | startLogging (settings : Settings) (directory : String)
  | subscribe
  | host (change : σ → Memory → σ × Memory)
  | environment (change : Environment → Environment)

def Bridge.deed (bridge : Bridge σ) : Deed σ → Bridge σ
  | .library call => (bridge.library call).2
  | .print text => bridge.print text
  | .exported call => (bridge.exported call).2
  | .exportedNull call => (bridge.exportedNull call).2
  | .raise event => bridge.raise event
  | .load => bridge.loadConfiguration.2
  | .startLogging settings directory => bridge.startLogging settings directory
  | .subscribe => bridge.subscribeForeign.2
  | .host change =>
    let (host, memory) := change bridge.host bridge.memory
    { bridge with host := host, memory := memory }
  | .environment change => { bridge with environment := change bridge.environment }

/-- A bridge, and how far the attempt has come that is under way on it. -/
structure Process (σ : Type) where
  bridge : Bridge σ
  stage : Stage σ

inductive Move (σ : Type) where
  | deed (deed : Deed σ)
  | begin (factory : Factory σ)
  /-- The attempt that is under way takes its next step. -/
  | advance

namespace Process

def fresh (host : σ) (environment : Environment) : Process σ :=
  ⟨Bridge.fresh host environment, .idle⟩

def entersCreate (factory : Factory σ) (bridge : Bridge σ) : Process σ :=
  ⟨bridge.enter .create, .create factory⟩

def greet (bridge : Bridge σ) : Bridge σ :=
  let underline := String.ofList (List.replicate Version.banner.utf8ByteSize '=')
  (bridge.raise (Bridge.notice Version.banner)).raise (Bridge.notice underline)

def advance : Process σ → Process σ
  | ⟨bridge, .idle⟩ => ⟨bridge, .idle⟩
  | ⟨bridge, .loading factory⟩ =>
    match bridge.loadConfiguration with
    | (.ok configuration, bridge) => ⟨bridge, .logging factory configuration⟩
    | (.error error, bridge) => ⟨bridge, .failed error⟩
  | ⟨bridge, .logging factory configuration⟩ =>
    ⟨bridge.startLogging configuration.settings bridge.environment.baseDirectory,
      .greeting factory⟩
  | ⟨bridge, .greeting factory⟩ =>
    match factory.substrate with
    | none => entersCreate factory (greet bridge)
    | some outcome => ⟨(greet bridge).enter .substrate, .substrate factory outcome⟩
  | ⟨bridge, .substrate factory (.ok ())⟩ => entersCreate factory bridge
  | ⟨bridge, .substrate _ (.error error)⟩ => ⟨bridge, .failed error⟩
  | ⟨bridge, .create factory⟩ =>
    if factory.hook.flavour = Flavour.active then ⟨bridge.enter .install, .install factory⟩
    else ⟨bridge, .failed (.layoutMismatch factory.hook.flavour Flavour.active)⟩
  | ⟨bridge, .install factory⟩ =>
    match factory.install with
    | .ok () => ⟨bridge.raise (Bridge.hookInstalled factory.hook.flavour), .installed factory⟩
    | .error error => ⟨bridge, .failed error⟩
  | ⟨bridge, .installed factory⟩ =>
    ⟨{ bridge with gate := Gate.bind factory.hook }.enter .announce, .announce⟩
  | ⟨bridge, .announce⟩ => ⟨bridge, .idle⟩
  | ⟨bridge, .failed error⟩ =>
    ⟨(bridge.setState .uninitialized).raise (Bridge.initializationFailed error), .idle⟩

/-- Begins an attempt. It comes to nothing while a hook is bound; attempts exclude each other, so it
also does while another one is under way. -/
def begin (factory : Factory σ) : Process σ → Process σ
  | ⟨bridge, .idle⟩ =>
    if bridge.gate.hook.isSome then ⟨bridge, .idle⟩
    else ⟨bridge.setState .initializing, .loading factory⟩
  | process => process

def make (process : Process σ) : Move σ → Process σ
  | .deed deed => { process with bridge := process.bridge.deed deed }
  | .begin factory => process.begin factory
  | .advance => process.advance

def run (process : Process σ) (moves : List (Move σ)) : Process σ :=
  moves.foldl make process

def binds : Process σ → Move σ → Bool
  | ⟨_, .installed _⟩, .advance => true
  | _, _ => false

def NeverBinds : Process σ → List (Move σ) → Prop
  | _, [] => True
  | process, move :: rest => process.binds move = false ∧ (process.make move).NeverBinds rest

instance decidableNeverBinds :
    (process : Process σ) → (moves : List (Move σ)) → Decidable (process.NeverBinds moves)
  | _, [] => .isTrue trivial
  | process, move :: rest =>
    have := decidableNeverBinds (process.make move) rest
    inferInstanceAs (Decidable (_ ∧ _))

def finish (factory : Factory σ) : Except Error Unit × Bridge σ → Bridge σ
  | (.error error, bridge) =>
    (bridge.setState .uninitialized).raise (Bridge.initializationFailed error)
  | (.ok (), bridge) => { bridge with gate := Gate.bind factory.hook }.enter .announce

theorem start_of_unbound {bridge : Bridge σ} (h : bridge.gate.hook = none)
    (preparation : Bridge σ → Except Error Unit × Bridge σ) (factory : Factory σ) :
    (bridge.start preparation factory).2
      = finish factory (Bridge.build preparation factory (bridge.setState .initializing)) := by
  rw [Bridge.start, h]
  dsimp only
  generalize Bridge.build preparation factory (bridge.setState .initializing) = outcome
  obtain ⟨error | _, built⟩ := outcome
  · rfl
  · rfl

def advanceBy (count : Nat) (process : Process σ) : Process σ :=
  process.run (List.replicate count .advance)

theorem advanceBy_succ (count : Nat) (process : Process σ) :
    process.advanceBy (count + 1) = process.advance.advanceBy count := rfl

theorem advanceBy_idle (count : Nat) (bridge : Bridge σ) :
    advanceBy count ⟨bridge, .idle⟩ = ⟨bridge, .idle⟩ := by
  induction count with
  | zero => rfl
  | succ count ih => exact ih

theorem advanceBy_failed (factory : Factory σ) (count : Nat) (bridge : Bridge σ) (error : Error) :
    advanceBy (count + 1) ⟨bridge, .failed error⟩
      = ⟨finish factory (.error error, bridge), .idle⟩ :=
  advanceBy_idle count _

theorem advanceBy_create (factory : Factory σ) (count : Nat) (bridge : Bridge σ) :
    advanceBy (count + 4) (entersCreate factory bridge)
      = ⟨finish factory (Bridge.installHook factory bridge), .idle⟩ := by
  rw [advanceBy_succ, entersCreate, advance, Bridge.installHook]
  split
  · rw [advanceBy_succ, advance]
    cases factory.install with
    | error error => exact advanceBy_failed factory (count + 1) _ error
    | ok => exact advanceBy_idle count _
  · exact advanceBy_failed factory (count + 2) _ _

theorem advanceBy_greeted (factory : Factory σ) (count : Nat) (bridge : Bridge σ) :
    advanceBy (count + 6) ⟨bridge, .greeting factory⟩
      = ⟨finish factory (Bridge.andThen (Bridge.prepareSubstrate factory)
          (Bridge.installHook factory) (greet bridge)), .idle⟩ := by
  rw [advanceBy_succ, advance, Bridge.andThen, Bridge.prepareSubstrate]
  cases factory.substrate with
  | none => exact advanceBy_create factory (count + 1) _
  | some outcome =>
      dsimp only
      rw [advanceBy_succ]
      cases outcome with
      | error error => exact advanceBy_failed factory (count + 3) _ error
      | ok => exact advanceBy_create factory count _

/-- An attempt that nothing comes between takes as many steps as it needs. -/
theorem run_attempt (bridge : Bridge σ) (factory : Factory σ) :
    run ⟨bridge, .idle⟩ (.begin factory :: List.replicate 8 .advance)
      = ⟨(bridge.start Bridge.prepare factory).2, .idle⟩ := by
  change advanceBy 8 (begin factory ⟨bridge, .idle⟩) = _
  cases hhook : bridge.gate.hook with
  | some hook =>
      rw [begin, Bridge.start, hhook]
      exact advanceBy_idle 8 bridge
  | none =>
      rw [begin, start_of_unbound hhook, hhook]
      change advanceBy 7 (advance ⟨bridge.setState .initializing, .loading factory⟩) = _
      rw [advance, Bridge.build, Bridge.andThen, Bridge.prepare]
      obtain ⟨error | configuration, loaded⟩ := (bridge.setState .initializing).loadConfiguration
      · exact advanceBy_failed factory 6 loaded error
      · exact advanceBy_greeted factory 0 _

end Process

/-- Whether no hook is bound and the host has never been called. -/
structure Bridge.Hidden (bridge : Bridge σ) : Prop where
  unbound : bridge.gate.hook = none
  not_ready : bridge.gate.state ≠ .ready
  blocks : bridge.blocks = []
  not_called : ∀ request, .call request ∉ bridge.steps

namespace Bridge.Hidden

variable {bridge after : Bridge σ}

theorem congr (h : bridge.Hidden) (hgate : after.gate = bridge.gate)
    (hblocks : after.blocks = bridge.blocks) (hsteps : after.steps = bridge.steps) :
    after.Hidden where
  unbound := by rw [hgate, h.unbound]
  not_ready := by rw [hgate]; exact h.not_ready
  blocks := hblocks.trans h.blocks
  not_called := by rw [hsteps]; exact h.not_called

theorem setState (h : bridge.Hidden) {state : GateState} (hstate : state ≠ .ready) :
    (bridge.setState state).Hidden where
  unbound := h.unbound
  not_ready := hstate
  blocks := h.blocks
  not_called := h.not_called

theorem enter (h : bridge.Hidden) (phase : Phase) : (bridge.enter phase).Hidden where
  unbound := h.unbound
  not_ready := h.not_ready
  blocks := h.blocks
  not_called request hmem := by
    rcases List.mem_append.mp hmem with hmem | hmem
    · exact h.not_called request hmem
    · cases List.mem_singleton.mp hmem

theorem raise (h : bridge.Hidden) (event : Event) : (bridge.raise event).Hidden := by
  rw [raise_of_unbound h.unbound]
  exact h

theorem loadConfiguration (h : bridge.Hidden) : bridge.loadConfiguration.2.Hidden := by
  rw [Bridge.loadConfiguration]
  split
  · exact h
  · split
    · exact h.congr rfl rfl rfl
    · exact h

theorem startLogging (h : bridge.Hidden) (settings : Settings) (directory : String) :
    (bridge.startLogging settings directory).Hidden := by
  rw [Bridge.startLogging]
  split
  · exact h
  · dsimp only
    split
    · exact h.congr rfl rfl rfl
    · refine raise (h.congr ?_ ?_ ?_) _ <;> rfl

theorem deed (h : bridge.Hidden) (deed : Deed σ) : (bridge.deed deed).Hidden := by
  cases deed with
  | library call =>
      rw [Bridge.deed, library_of_unbound h.unbound]
      exact h
  | print text =>
      rw [Bridge.deed, print_of_unbound h.unbound]
      exact h
  | exported call =>
      rw [Bridge.deed, exported_of_unbound h.unbound h.not_ready]
      exact h
  | exportedNull call =>
      rw [Bridge.deed, exportedNull_eq]
      exact h
  | raise event => exact h.raise event
  | load => exact h.loadConfiguration
  | startLogging settings directory => exact h.startLogging settings directory
  | subscribe =>
      rw [Bridge.deed, subscribeForeign]
      split
      · exact h.congr rfl rfl rfl
      · exact h
  | host change => exact h.congr rfl rfl rfl
  | environment change => exact h.congr rfl rfl rfl

end Bridge.Hidden

namespace Process

variable {process : Process σ}

theorem hidden_advance (h : process.bridge.Hidden) (hbinds : process.binds .advance = false) :
    process.advance.bridge.Hidden := by
  obtain ⟨bridge, stage⟩ := process
  change bridge.Hidden at h
  cases stage with
  | idle | announce => exact h
  | loading factory =>
      have hloaded := h.loadConfiguration
      rw [advance]
      generalize bridge.loadConfiguration = outcome at hloaded ⊢
      obtain ⟨error | configuration, loaded⟩ := outcome
      · exact hloaded
      · exact hloaded
  | logging factory configuration => exact h.startLogging _ _
  | greeting factory =>
      have hgreeted : (greet bridge).Hidden := (h.raise _).raise _
      rw [advance]
      split
      · exact hgreeted.enter .create
      · exact hgreeted.enter .substrate
  | substrate factory outcome =>
      cases outcome with
      | error error => exact h
      | ok => exact h.enter .create
  | create factory =>
      rw [advance]
      split
      · exact h.enter .install
      · exact h
  | install factory =>
      rw [advance]
      split
      · exact h.raise _
      · exact h
  | installed factory => cases hbinds
  | failed error => exact (h.setState (by decide)).raise _

theorem hidden_make (h : process.bridge.Hidden) {move : Move σ}
    (hbinds : process.binds move = false) : (process.make move).bridge.Hidden := by
  cases move with
  | deed deed => exact h.deed deed
  | advance => exact hidden_advance h hbinds
  | begin factory =>
      obtain ⟨bridge, stage⟩ := process
      cases stage with
      | idle =>
          rw [make, begin]
          split
          · exact h
          · exact h.setState (by decide)
      | _ => exact h

theorem hidden_run (h : process.bridge.Hidden) {moves : List (Move σ)}
    (hnever : process.NeverBinds moves) : (process.run moves).bridge.Hidden := by
  induction moves generalizing process with
  | nil => exact h
  | cons move rest ih => exact ih (hidden_make h hnever.1) hnever.2

theorem hidden_fresh (host : σ) (environment : Environment) :
    (fresh host environment).bridge.Hidden where
  unbound := rfl
  not_ready := nofun
  blocks := rfl
  not_called _ := List.not_mem_nil

/-- Until a hook is bound, at whatever stage an attempt is and however many have failed, no call of
either surface does anything but fail or answer its fallback, and nothing that has happened so far
has reached the host. An attempt that nothing comes between is one of `Bridge.start`. -/
theorem nothing_reaches_host (host : σ) (environment : Environment) (moves : List (Move σ))
    (hnever : (fresh host environment).NeverBinds moves) :
    let bridge := ((fresh host environment).run moves).bridge
    bridge.isInitialized = false ∧ bridge.isConsoleReady = false ∧ bridge.keptBlocks = 0 ∧
      (∀ call, bridge.library call = (.error .notInitialized, bridge)) ∧
      (∀ text, bridge.print text = bridge) ∧
      (∀ call, bridge.exported call = (call.fallback, bridge)) ∧
      (∀ call, bridge.exportedNull call = (call.fallback, bridge)) ∧
      (∀ event, bridge.raise event = bridge) ∧
      (∀ request, .call request ∉ bridge.steps) ∧
      ∀ factory, run ⟨bridge, .idle⟩ (.begin factory :: List.replicate 8 .advance)
        = ⟨(bridge.start Bridge.prepare factory).2, .idle⟩ := by
  intro bridge
  have h : bridge.Hidden := hidden_run (hidden_fresh host environment) hnever
  refine ⟨Bridge.isInitialized_of_state h.not_ready, Bridge.isConsoleReady_of_unbound h.unbound, ?_,
    Bridge.library_of_unbound h.unbound, Bridge.print_of_unbound h.unbound,
    Bridge.exported_of_unbound h.unbound h.not_ready, Bridge.exportedNull_eq bridge,
    Bridge.raise_of_unbound h.unbound, h.not_called, run_attempt bridge⟩
  rw [Bridge.keptBlocks, h.blocks, List.length_nil]

/-- The installation of the hook is refused, and a second attempt has come as far again. -/
def refusedAndRetried : List (Move ScriptedHost) :=
  let factory : Factory ScriptedHost :=
    ⟨some (.ok ()), loudHost.hook .oak, .error (.substrate "no call site")⟩
  let toInstall : List (Move ScriptedHost) := .begin factory :: List.replicate 5 .advance
  toInstall ++
    [.deed (.raise ⟨.error, "in between", []⟩), .deed (.exported (.allocate 8)), .advance, .advance,
      .deed (.library .registry), .deed (.print [0x41])] ++
    toInstall

theorem hidden_while_installing :
    let process := (fresh loudHost (Bridge.withBaseFile "")).run refusedAndRetried
    (fresh loudHost (Bridge.withBaseFile "")).NeverBinds refusedAndRetried ∧
      process.stage matches .install _ ∧ process.bridge.threshold = some .warn ∧
      process.bridge.steps.length = 6 ∧ process.bridge.isConsoleReady = false ∧
      process.bridge.exported (.allocate 8) = (.address 0, process.bridge) ∧
      ∀ event, process.bridge.raise event = process.bridge := by
  intro process
  have hnever : (fresh loudHost (Bridge.withBaseFile "")).NeverBinds refusedAndRetried := by
    decide +kernel
  obtain ⟨-, hready, -, -, -, hexported, -, hraise, -⟩ :=
    nothing_reaches_host loudHost (Bridge.withBaseFile "") refusedAndRetried hnever
  exact ⟨hnever, by decide +kernel, by decide +kernel, by decide +kernel, hready, hexported _,
    hraise⟩

end Process

end HostBridge
