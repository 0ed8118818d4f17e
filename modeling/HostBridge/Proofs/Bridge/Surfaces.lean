import HostBridge.Bridge.Exports
import HostBridge.Proofs.Bridge.Allocations
import Mathlib.Data.List.TakeWhile

/-!
# Exported calls and the library

An exported call is the call of the library that it stands for. Where that one answers, the exported
call answers the same; where it fails, the exported call logs the error and answers a fallback. The
host sees the calls of the library and, besides them, the lines of the events that are logged.
-/

namespace HostBridge

variable {σ : Type}

/-- An exported call that stands for one of the library. Pointers that may be null are optional. -/
inductive ExportedCall where
  | isInitialized
  | isConsoleReady
  | registry
  | registrySize
  | objectAt (index : Nat)
  | resolve (weak : WeakReference)
  | setReference (weak : WeakReference) (object : Address)
  | offsets
  | allocate (length : Nat)
  | reallocate (block : Address) (length : Nat)
  | release (block : Address) (given : block ≠ 0)
  | construct (hostClass outer : Address) (name? : Option HostName) (flags : UInt64)
    (template : Address)
  | find (hostClass : Address) (name : WideText)
  | loadPackage (name : WideText) (flags : UInt32)
  | internName (name : HostName) (value : Option (List Utf16.Unit)) (number : Int32)
  | nameEntry (name : HostName)
  | stepFrame (frame object parameter : Address)
  | dispatch (object function parameters : Address)
  | print (text : WideText)
  | pathName (object : Address) (hasPlace : Bool)
  | assignText (target : Address) (text : WideText)
  | assignSoft (pointer object : Address)
  | assignLazy (pointer object : Address)

/-- What an exported call answers, and what stands behind its pointers afterwards. -/
inductive Reply where
  | nothing
  | truth (truth : Bool)
  | number (number : Nat)
  | address (address : Address)
  | offsets (table? : Option OffsetTable)
  | weak (isSet : Bool) (weak? : Option WeakReference)
  | name (name? : Option HostName)
  | entry (written : Option NameEntry)
  | text (block : Address) (length? : Option Nat)

namespace ExportedCall

/-- The name under which an error is logged; the empty name for calls that do not fail. -/
def function : ExportedCall → String
  | isInitialized | isConsoleReady | print _ => ""
  | registry => "gobjects"
  | registrySize => "gobjects_size"
  | objectAt _ => "gobjects_obj_at"
  | resolve _ => "gobjects_get_weak_object"
  | setReference .. => "gobjects_set_weak_object"
  | offsets => "get_offsets"
  | allocate _ => "u_malloc"
  | reallocate .. => "u_realloc"
  | release .. => "u_free"
  | construct .. => "construct_object"
  | find .. => "find_object"
  | loadPackage .. => "load_package"
  | internName .. => "fname_init"
  | nameEntry _ => "fname_get_str"
  | stepFrame .. => "fframe_step"
  | dispatch .. => "process_event"
  | pathName .. => "uobject_path_name"
  | assignText .. => "ftext_as_culture_invariant"
  | assignSoft .. => "fsoftobjectptr_assign"
  | assignLazy .. => "flazyobjectptr_assign"

/-- Null, false, zero or nothing. References and names stay as they are, no length is written, and
an entry is the empty narrow one. -/
def fallback : ExportedCall → Reply
  | isInitialized | isConsoleReady => .truth false
  | registrySize => .number 0
  | registry | objectAt _ | resolve _ | allocate _ | reallocate .. | construct .. | find ..
  | loadPackage .. => .address 0
  | setReference weak _ => .weak false (some weak)
  | offsets => .offsets none
  | internName name .. => .name (some name)
  | nameEntry _ => .entry (some (.narrow []))
  | pathName .. => .text 0 none
  | release .. | stepFrame .. | dispatch .. | print _ | assignText .. | assignSoft ..
  | assignLazy .. => .nothing

/-- The event that an exported call raises first. -/
def announcement? : ExportedCall → Option Event
  | allocate length => some ⟨.trace, "u_malloc", [("len", .number length)]⟩
  | _ => none

/-- The event that an exported call raises when it fails. -/
def failure (call : ExportedCall) (error : Error) : Event where
  level := .error
  message := "unrealsdk call failed"
  fields := [("function", .plain call.function), ("error", .plain error.message)]

end ExportedCall

def placed (hasPlace : Bool) (text : Address × Option Nat) : Reply :=
  .text text.1 (text.2.filter fun _ => hasPlace)

namespace Bridge

open Exports (mapAnswer report)

def exported (bridge : Bridge σ) : ExportedCall → Reply × Bridge σ
  | .isInitialized => (.truth (Exports.isInitialized bridge), bridge)
  | .isConsoleReady => (.truth (Exports.isConsoleReady bridge), bridge)
  | .registry => mapAnswer .address (Exports.registry bridge)
  | .registrySize => mapAnswer .number (Exports.registrySize bridge)
  | .objectAt index => mapAnswer .address (Exports.objectAt index bridge)
  | .resolve weak => mapAnswer .address (Exports.resolve (some weak) bridge)
  | .setReference weak object =>
    mapAnswer (fun (isSet, weak?) => .weak isSet weak?)
      (Exports.setReference (some weak) object bridge)
  | .offsets => mapAnswer .offsets (Exports.offsets bridge)
  | .allocate length => mapAnswer .address (Exports.allocate length bridge)
  | .reallocate block length => mapAnswer .address (Exports.reallocate block length bridge)
  | .release block _ => (.nothing, Exports.release block bridge)
  | .construct hostClass outer name? flags template =>
    mapAnswer .address (Exports.construct hostClass outer name? flags template bridge)
  | .find hostClass name => mapAnswer .address (Exports.find hostClass name bridge)
  | .loadPackage name flags => mapAnswer .address (Exports.loadPackage name flags bridge)
  | .internName name value number =>
    mapAnswer .name (Exports.internName (some name) value number bridge)
  | .nameEntry name => mapAnswer .entry (Exports.nameEntry true name bridge)
  | .stepFrame frame object parameter => (.nothing, Exports.stepFrame frame object parameter bridge)
  | .dispatch object function parameters =>
    (.nothing, Exports.dispatch object function parameters bridge)
  | .print text => (.nothing, Exports.print text bridge)
  | .pathName object hasPlace => mapAnswer (placed hasPlace) (Exports.pathName object bridge)
  | .assignText target text => (.nothing, Exports.assignText target text bridge)
  | .assignSoft pointer object => (.nothing, Exports.assignSoft pointer object bridge)
  | .assignLazy pointer object => (.nothing, Exports.assignLazy pointer object bridge)

def tell {α : Type} (reply : α → Reply) (outcome : Except Error α × Bridge σ) :
    Except Error Reply × Bridge σ :=
  (outcome.1.map reply, outcome.2)

/-- The call of the library that an exported call stands for. -/
def counterpart (bridge : Bridge σ) : ExportedCall → Except Error Reply × Bridge σ
  | .isInitialized => (.ok (.truth bridge.isInitialized), bridge)
  | .isConsoleReady => (.ok (.truth bridge.isConsoleReady), bridge)
  | .registry => tell (fun registry => .address registry.header) (bridge.registry, bridge)
  | .registrySize =>
    tell (fun registry => .number (registry.size bridge.memory)) (bridge.registry, bridge)
  | .objectAt index =>
    tell (fun object? => .address (object?.getD 0))
      (bridge.registry.bind fun registry => registry.at? bridge.memory index, bridge)
  | .resolve weak =>
    tell (fun object? => .address (object?.getD 0))
      (bridge.registry.bind fun registry => registry.resolve bridge.memory weak, bridge)
  | .setReference _ object =>
    tell (fun weak => .weak true (some weak))
      (match bridge.registry with
      | .ok registry => bridge.reference registry (if object = 0 then none else some object)
      | .error error => (.error error, bridge))
  | .offsets => tell (fun table => .offsets (some table)) (bridge.offsets, bridge)
  | .allocate length => tell .address (bridge.allocate length)
  | .reallocate block length => tell .address (bridge.reallocate block length)
  | .release block _ => tell (fun () => .nothing) (bridge.release block)
  | .construct hostClass outer name? flags template =>
    tell .address (bridge.construct hostClass outer name? flags template)
  | .find hostClass name =>
    tell (fun object? => .address (object?.getD 0)) (bridge.find? hostClass name.text)
  | .loadPackage name flags =>
    tell (fun object? => .address (object?.getD 0)) (bridge.loadPackage? name.text flags)
  | .internName _ value number =>
    tell (fun name => .name (some name)) (bridge.internName (WideText.terminated value) number)
  | .nameEntry name => tell (fun entry => .entry (some entry)) (bridge.nameEntry name)
  | .stepFrame frame object parameter =>
    tell (fun () => .nothing) (bridge.stepFrame frame object parameter)
  | .dispatch object function parameters =>
    tell (fun () => .nothing) (bridge.dispatch object function parameters)
  | .print text => (.ok .nothing, bridge.print text.text)
  | .pathName object hasPlace =>
    tell (fun text => placed hasPlace (text.block, some text.length)) (bridge.pathName object)
  | .assignText target text => tell (fun () => .nothing) (bridge.assignText target text.text)
  | .assignSoft pointer object => tell (fun () => .nothing) (bridge.assignSoft pointer object)
  | .assignLazy pointer object => tell (fun () => .nothing) (bridge.assignLazy pointer object)

def announce (bridge : Bridge σ) (call : ExportedCall) : Bridge σ :=
  call.announcement?.elim bridge bridge.raise

variable {bridge : Bridge σ}

theorem mapAnswer_report {α : Type} (reply : α → Reply) (function : String) (fallback : α)
    (outcome : Except Error α × Bridge σ) :
    mapAnswer reply (report function fallback outcome)
      = report function (reply fallback) (tell reply outcome) := by
  obtain ⟨error | answer, bridge⟩ := outcome
  · rfl
  · rfl

theorem mapAnswer_report_map {α β : Type} (reply : β → Reply) (change : α → β) (function : String)
    (fallback : β) (outcome : Except Error α × Bridge σ) :
    mapAnswer reply (report function fallback (outcome.1.map change, outcome.2))
      = report function (reply fallback) (tell (fun answer => reply (change answer)) outcome) := by
  have hmap : (outcome.1.map change).map reply
      = outcome.1.map fun answer => reply (change answer) := by
    cases outcome.1 with
    | error error => rfl
    | ok answer => rfl
  rw [mapAnswer_report, tell, hmap, tell]

/-- An exported call reports the outcome of its counterpart. -/
theorem exported_eq_report (call : ExportedCall) (bridge : Bridge σ) :
    bridge.exported call
      = report call.function call.fallback ((bridge.announce call).counterpart call) := by
  cases call with
  | isInitialized | isConsoleReady | print => rfl
  | registry =>
      exact mapAnswer_report_map .address (·.header) "gobjects" 0 (bridge.registry, bridge)
  | registrySize =>
      exact mapAnswer_report_map .number (·.size bridge.memory) "gobjects_size" 0
        (bridge.registry, bridge)
  | offsets => exact mapAnswer_report_map .offsets some "get_offsets" none (bridge.offsets, bridge)
  | setReference weak object =>
      exact mapAnswer_report_map (fun (isSet, weak?) => .weak isSet weak?)
        (fun fresh => (true, some fresh)) "gobjects_set_weak_object" (false, some weak)
        (Exports.reference object bridge)
  | pathName object hasPlace =>
      exact mapAnswer_report_map (placed hasPlace) (fun text => (text.block, some text.length))
        "uobject_path_name" (0, none) (bridge.pathName object)
  | release block given =>
      have hrelease : Exports.release block bridge
          = (report "u_free" () (bridge.release block)).2 := if_neg given
      rw [exported, hrelease]
      exact mapAnswer_report (fun () => .nothing) "u_free" () (bridge.release block)
  | objectAt | resolve | find | loadPackage =>
      exact mapAnswer_report (fun object? => .address (object?.getD 0)) _ none _
  | internName name =>
      exact mapAnswer_report (fun name => .name (some name)) "fname_init" name _
  | nameEntry => exact mapAnswer_report (fun entry => .entry (some entry)) _ _ _
  | allocate | reallocate | construct => exact mapAnswer_report .address _ _ _
  | stepFrame | dispatch | assignText | assignSoft | assignLazy =>
      exact mapAnswer_report (fun () => .nothing) _ _ _

/-- Whether a bridge has the same gate as another one and has only gone on to step into the host,
where it prints nothing unless it may. -/
structure GoesOn (mayPrint : Prop) (before after : Bridge σ) : Prop where
  gate : after.gate = before.gate
  steps : ∃ calls, after.steps = before.steps ++ calls ∧
    ∀ text, .call (.print text) ∈ calls → mayPrint

variable {mayPrint : Prop}

theorem goesOn_of_steps_eq {after : Bridge σ} (hgate : after.gate = bridge.gate)
    (hsteps : after.steps = bridge.steps) : GoesOn mayPrint bridge after := by
  refine ⟨hgate, [], ?_, fun text hmem => ?_⟩
  · rw [hsteps, List.append_nil]
  · cases hmem

theorem GoesOn.rfl : GoesOn mayPrint bridge bridge := goesOn_of_steps_eq (.refl _) (.refl _)

theorem GoesOn.trans {first second third : Bridge σ} (h : GoesOn mayPrint first second)
    (h' : GoesOn mayPrint second third) : GoesOn mayPrint first third := by
  obtain ⟨hgate, calls, hsteps, hprint⟩ := h
  obtain ⟨hgate', calls', hsteps', hprint'⟩ := h'
  refine ⟨hgate'.trans hgate, calls ++ calls', ?_, fun text hmem => ?_⟩
  · rw [hsteps', hsteps, List.append_assoc]
  · rcases List.mem_append.mp hmem with hmem | hmem
    · exact hprint text hmem
    · exact hprint' text hmem

theorem goesOn_of_prefix {after : Bridge σ} (hmay : mayPrint) (hgate : after.gate = bridge.gate)
    (hsteps : bridge.steps <+: after.steps) : GoesOn mayPrint bridge after := by
  obtain ⟨calls, hcalls⟩ := hsteps
  exact ⟨hgate, calls, hcalls.symm, fun _ _ => hmay⟩

theorem goesOn_call (bridge : Bridge σ) {request : HostCall}
    (hrequest : ∀ text, request = .print text → mayPrint) :
    GoesOn mayPrint bridge (bridge.call request).2 := by
  cases hhook : bridge.gate.hook with
  | none =>
      rw [call_of_unbound hhook]
      exact GoesOn.rfl
  | some hook =>
      rw [call_of_bound hhook]
      refine ⟨.refl _, [.call request], .refl _, fun text hmem => hrequest text ?_⟩
      cases hmem with
      | head => rfl
      | tail _ hmem => cases hmem

theorem goesOn_keepBlock (bridge : Bridge σ) (block : Address) :
    GoesOn mayPrint bridge (bridge.keepBlock block) := by
  rw [keepBlock]
  split <;> exact goesOn_of_steps_eq (.refl _) (.refl _)

theorem goesOn_raise (hmay : mayPrint) (bridge : Bridge σ) (event : Event) :
    GoesOn mayPrint bridge (bridge.raise event) := by
  refine goesOn_of_prefix hmay (hostMoves_raise bridge event).gate ?_
  rw [steps_raise]
  exact List.prefix_append _ _

theorem goesOn_print (hmay : mayPrint) (bridge : Bridge σ) (text : List Utf16.Unit) :
    GoesOn mayPrint bridge (bridge.print text) := by
  cases hhook : bridge.gate.hook with
  | none =>
      rw [print_of_unbound hhook]
      exact GoesOn.rfl
  | some hook =>
      exact goesOn_of_prefix hmay (gate_print bridge text)
        ((List.prefix_append _ _).trans (steps_print hhook text))

theorem goesOn_allocate (bridge : Bridge σ) (length : Nat) :
    GoesOn mayPrint bridge (bridge.allocate length).2 := by
  have hcall : GoesOn mayPrint bridge (bridge.call (.allocate length)).2 :=
    goesOn_call bridge fun _ hrequest => by cases hrequest
  rw [allocate]
  generalize bridge.call (.allocate length) = outcome at hcall ⊢
  obtain ⟨error | block, after⟩ := outcome
  · exact hcall
  · exact hcall.trans (goesOn_keepBlock after block)

theorem goesOn_reallocate (bridge : Bridge σ) (block : Address) (length : Nat) :
    GoesOn mayPrint bridge (bridge.reallocate block length).2 := by
  have hcall : GoesOn mayPrint bridge (bridge.call (.reallocate block length)).2 :=
    goesOn_call bridge fun _ hrequest => by cases hrequest
  rw [reallocate]
  generalize bridge.call (.reallocate block length) = outcome at hcall ⊢
  obtain ⟨error | fresh, after⟩ := outcome
  · exact hcall
  · have hdrop : GoesOn mayPrint after (after.dropBlock block) :=
      goesOn_of_steps_eq (.refl _) (.refl _)
    exact (hcall.trans hdrop).trans (goesOn_keepBlock _ fresh)

theorem goesOn_release (bridge : Bridge σ) (block : Address) :
    GoesOn mayPrint bridge (bridge.release block).2 := by
  have hcall : GoesOn mayPrint bridge (bridge.call (.release block)).2 :=
    goesOn_call bridge fun _ hrequest => by cases hrequest
  rw [release]
  generalize bridge.call (.release block) = outcome at hcall ⊢
  obtain ⟨error | _, after⟩ := outcome
  · exact hcall
  · exact hcall.trans (goesOn_of_steps_eq (.refl _) (.refl _))

theorem goesOn_pathName (bridge : Bridge σ) (object : Address) :
    GoesOn mayPrint bridge (bridge.pathName object).2 := by
  have hcall : GoesOn mayPrint bridge (bridge.call (.pathName object)).2 :=
    goesOn_call bridge fun _ hrequest => by cases hrequest
  rw [pathName]
  generalize bridge.call (.pathName object) = outcome at hcall ⊢
  obtain ⟨error | units, answered⟩ := outcome
  · exact hcall
  · have hallocated := hcall.trans
      (goesOn_allocate answered (HostText.byteLength (List.length units)))
    dsimp only
    generalize answered.allocate (HostText.byteLength (List.length units)) = outcome at hallocated ⊢
    obtain ⟨error | block, after⟩ := outcome
    · exact hallocated
    · dsimp only
      split
      · exact hallocated
      · exact ⟨hallocated.gate, hallocated.steps⟩

theorem goesOn_reference (bridge : Bridge σ) (registry : Registry) (object? : Option Address) :
    GoesOn (bridge.reference registry object?).1.isOk bridge
      (bridge.reference registry object?).2 := by
  rw [reference]
  cases registry.reference bridge.memory object? with
  | error error => exact GoesOn.rfl
  | ok assigned =>
      obtain ⟨weak, memory⟩ := assigned
      have hwritten {mayPrint : Prop} : GoesOn mayPrint bridge { bridge with memory := memory } :=
        goesOn_of_steps_eq (.refl _) (.refl _)
      dsimp only
      split
      · exact hwritten.trans (goesOn_raise rfl _ _)
      · exact hwritten

theorem goesOn_counterpart (bridge : Bridge σ) (call : ExportedCall) :
    GoesOn (bridge.counterpart call).1.isOk bridge (bridge.counterpart call).2 := by
  cases call with
  | isInitialized | isConsoleReady | registry | registrySize | objectAt | resolve | offsets =>
      exact GoesOn.rfl
  | setReference weak object =>
      rw [counterpart]
      cases bridge.registry with
      | error error => exact GoesOn.rfl
      | ok registry =>
          have hreference := goesOn_reference bridge registry
            (if object = 0 then none else some object)
          dsimp only
          generalize bridge.reference registry (if object = 0 then none else some object)
            = outcome at hreference ⊢
          obtain ⟨error | fresh, after⟩ := outcome
          · exact hreference
          · exact hreference
  | allocate length => exact goesOn_allocate bridge length
  | reallocate block length => exact goesOn_reallocate bridge block length
  | release block => exact goesOn_release bridge block
  | print text => exact goesOn_print rfl bridge text.text
  | pathName object => exact goesOn_pathName bridge object
  | construct | find | loadPackage | internName | nameEntry | stepFrame | dispatch | assignText
  | assignSoft | assignLazy => exact goesOn_call bridge fun _ hrequest => by cases hrequest

/-- The calls that the host sees of one that the library makes: none while no hook is bound. -/
def asked (bridge : Bridge σ) (request : HostCall) : List HostStep :=
  if bridge.gate.hook.isSome then [.call request] else []

theorem allocate_of_unbound (h : bridge.gate.hook = none) (length : Nat) :
    bridge.allocate length = (.error .notInitialized, bridge) := by
  rw [allocate, call_of_unbound h]
  rfl

theorem allocate_of_bound {hook : Hook σ} (h : bridge.gate.hook = some hook) {length : Nat}
    {block : Address} {host : σ} {memory : Memory}
    (hserve : hook.serve (.allocate length) bridge.host bridge.memory = (block, host, memory)) :
    bridge.allocate length = (.ok block, { bridge with
      host := host
      memory := memory
      steps := bridge.steps ++ [.call (.allocate length)]
      blocks := if block = 0 then bridge.blocks else bridge.blocks.insert block }) := by
  rw [allocate, call_of_bound h, ask_of_serve hserve]
  change (Except.ok block, keepBlock block _) = _
  rw [keepBlock]
  split
  · rfl
  · rfl

theorem steps_allocate (bridge : Bridge σ) (length : Nat) :
    (bridge.allocate length).2.steps = bridge.steps ++ bridge.asked (.allocate length) := by
  cases hhook : bridge.gate.hook with
  | none =>
      rw [allocate_of_unbound hhook, asked, hhook]
      exact (List.append_nil _).symm
  | some hook =>
      rcases hserve : hook.serve (.allocate length) bridge.host bridge.memory with
        ⟨block, host, memory⟩
      rw [allocate_of_bound hhook hserve, asked, hhook]
      rfl

/-- Where a block lies and what it does to the host does not depend on the steps before it. -/
theorem allocate_with_steps (bridge : Bridge σ) (steps : List HostStep) (length : Nat) :
    ∃ after, ({ bridge with steps := steps }).allocate length = ((bridge.allocate length).1,
      { (bridge.allocate length).2 with steps := after }) := by
  let other := { bridge with steps := steps }
  cases hhook : bridge.gate.hook with
  | none =>
      have hother : other.gate.hook = none := hhook
      rw [allocate_of_unbound hhook, allocate_of_unbound hother]
      exact ⟨_, rfl⟩
  | some hook =>
      have hother : other.gate.hook = some hook := hhook
      rcases hserve : hook.serve (.allocate length) bridge.host bridge.memory with
        ⟨block, host, memory⟩
      rw [allocate_of_bound hhook hserve, allocate_of_bound hother hserve]
      exact ⟨_, rfl⟩

theorem gate_announce (bridge : Bridge σ) (call : ExportedCall) :
    (bridge.announce call).gate = bridge.gate := by
  rw [announce]
  cases call.announcement? with
  | none => rfl
  | some event => exact (hostMoves_raise bridge event).gate

theorem steps_announce (bridge : Bridge σ) (call : ExportedCall) :
    (bridge.announce call).steps = bridge.steps ++ call.announcement?.elim [] bridge.lines := by
  rw [announce]
  cases call.announcement? with
  | none => exact (List.append_nil _).symm
  | some event => exact steps_raise bridge event

/-- A counterpart makes the same calls before and after an announcement. -/
theorem steps_counterpart (bridge : Bridge σ) (call : ExportedCall) :
    ∃ calls, (bridge.counterpart call).2.steps = bridge.steps ++ calls ∧
      ((bridge.announce call).counterpart call).2.steps = (bridge.announce call).steps ++ calls ∧
      ∀ text, .call (.print text) ∈ calls → (bridge.counterpart call).1.isOk := by
  obtain ⟨calls, hcalls, hprint⟩ := (goesOn_counterpart bridge call).steps
  refine ⟨calls, hcalls, ?_, hprint⟩
  cases call with
  | allocate length =>
      have hasked : calls = bridge.asked (.allocate length) := by
        rw [← List.append_right_inj bridge.steps, ← hcalls]
        exact steps_allocate bridge length
      have hsame : (bridge.announce (.allocate length)).asked (.allocate length)
          = bridge.asked (.allocate length) := by
        rw [asked, gate_announce, asked]
      rw [hasked, ← hsame]
      exact steps_allocate _ length
  -- No other call announces itself.
  | _ => exact hcalls

theorem counterpart_announce (h : bridge.IsQuiet) (call : ExportedCall) :
    ∃ steps, (bridge.announce call).counterpart call = ((bridge.counterpart call).1,
      { (bridge.counterpart call).2 with steps := steps }) := by
  cases call with
  | allocate length =>
      have hannounce : ∃ steps, bridge.announce (.allocate length)
          = { bridge with steps := steps } := ⟨_, raise_of_isQuiet h _⟩
      obtain ⟨steps, hannounce⟩ := hannounce
      obtain ⟨after, hafter⟩ := allocate_with_steps bridge steps length
      rw [hannounce]
      exact ⟨after, congrArg (tell .address) hafter⟩
  -- No other call announces itself.
  | _ => exact ⟨_, rfl⟩

def failureLines (call : ExportedCall) : Except Error Reply × Bridge σ → List HostStep
  | (.ok _, _) => []
  | (.error error, bridge) => bridge.lines (call.failure error)

theorem steps_report (call : ExportedCall) (outcome : Except Error Reply × Bridge σ) :
    (report call.function call.fallback outcome).2.steps
      = outcome.2.steps ++ failureLines call outcome := by
  obtain ⟨error | reply, after⟩ := outcome
  · exact steps_raise after _
  · exact (List.append_nil _).symm

theorem exported_of_isQuiet (h : bridge.IsQuiet) (call : ExportedCall) :
    (bridge.exported call).1 = (bridge.counterpart call).1.toOption.getD call.fallback ∧
      (bridge.exported call).2.host = (bridge.counterpart call).2.host ∧
      (bridge.exported call).2.memory = (bridge.counterpart call).2.memory ∧
      (bridge.exported call).2.blocks = (bridge.counterpart call).2.blocks := by
  obtain ⟨steps, hcounterpart⟩ := counterpart_announce h call
  have hgate := (goesOn_counterpart bridge call).gate
  rw [exported_eq_report, hcounterpart]
  generalize bridge.counterpart call = outcome at hgate ⊢
  obtain ⟨error | reply, after⟩ := outcome
  · have hquiet : ({ after with steps := steps } : Bridge σ).IsQuiet := by
      intro hook hhook
      exact h hook (hgate ▸ hhook)
    change _ ∧ (raise _ _).host = _ ∧ (raise _ _).memory = _ ∧ (raise _ _).blocks = _
    rw [raise_of_isQuiet hquiet]
    exact ⟨rfl, rfl, rfl, rfl⟩
  · exact ⟨rfl, rfl, rfl, rfl⟩

theorem terminated_append (units rest : List Utf16.Unit) :
    WideText.terminated (some (units ++ 0 :: rest)) = units.takeWhile (· != 0) := by
  rw [WideText.terminated, Option.getD_some, List.takeWhile_append]
  split
  next hwhole =>
    rw [List.takeWhile_cons_of_neg (by decide), List.append_nil]
    exact ((List.takeWhile_prefix _).eq_of_length hwhole).symm
  next => rfl

theorem terminated_append_zero {units : List Utf16.Unit} (h : 0 ∉ units) (rest : List Utf16.Unit) :
    WideText.terminated (some (units ++ 0 :: rest)) = units := by
  have hunits : ∀ unit ∈ units, (unit != 0) = true := by
    intro unit hunit
    exact bne_iff_ne.mpr fun hzero => h (hzero ▸ hunit)
  rw [terminated_append, List.takeWhile_eq_self_iff.mpr hunits]

/-- An exported call answers what its counterpart answers, after it has announced itself, and leaves
behind what that leaves; where the counterpart fails it answers the fallback and logs the error. The
host sees the calls of the counterpart and the lines of these events, nothing else. If its console
routine is quiet, announcing the call makes no difference either. -/
theorem exported_agrees (call : ExportedCall) (bridge : Bridge σ) :
    (match (bridge.announce call).counterpart call with
      | (.ok reply, after) => bridge.exported call = (reply, after)
      | (.error error, after) =>
        bridge.exported call = (call.fallback, after.raise (call.failure error))) ∧
    (∃ calls, (bridge.counterpart call).2.steps = bridge.steps ++ calls ∧
      (∀ text, .call (.print text) ∈ calls → (bridge.counterpart call).1.isOk) ∧
      (bridge.exported call).2.steps
        = bridge.steps ++ call.announcement?.elim [] bridge.lines ++ calls
          ++ failureLines call ((bridge.announce call).counterpart call)) ∧
    (bridge.IsQuiet →
      (bridge.exported call).1 = (bridge.counterpart call).1.toOption.getD call.fallback ∧
        (bridge.exported call).2.host = (bridge.counterpart call).2.host ∧
        (bridge.exported call).2.memory = (bridge.counterpart call).2.memory ∧
        (bridge.exported call).2.blocks = (bridge.counterpart call).2.blocks) ∧
    (∀ units size, units = none ∨ size = 0 → (WideText.mk units size).text = []) ∧
    (∀ units rest, (WideText.mk (some (units ++ rest)) units.length).text = units) ∧
    WideText.terminated none = [] ∧
    (∀ units rest, 0 ∉ units → WideText.terminated (some (units ++ 0 :: rest)) = units) ∧
    ∀ hostClass outer flags template,
      bridge.counterpart (.construct hostClass outer none flags template)
        = bridge.counterpart (.construct hostClass outer (some ⟨0, 0⟩) flags template) := by
  refine ⟨?_, ?_, fun hquiet => exported_of_isQuiet hquiet call, ?_, ?_, rfl,
    fun units rest hunits => terminated_append_zero hunits rest,
    fun hostClass outer flags template => rfl⟩
  · rw [exported_eq_report]
    generalize (bridge.announce call).counterpart call = outcome
    obtain ⟨error | reply, after⟩ := outcome
    · rfl
    · rfl
  · obtain ⟨calls, hdirect, hannounced, hprint⟩ := steps_counterpart bridge call
    let outcome := (bridge.announce call).counterpart call
    refine ⟨calls, hdirect, hprint, ?_⟩
    calc
      (bridge.exported call).2.steps
          = (report call.function call.fallback outcome).2.steps := by rw [exported_eq_report]
      _ = outcome.2.steps ++ failureLines call outcome := steps_report call outcome
      _ = (bridge.announce call).steps ++ calls ++ failureLines call outcome := by
        rw [hannounced]
      _ = bridge.steps ++ call.announcement?.elim [] bridge.lines ++ calls
          ++ failureLines call outcome := by rw [steps_announce]
  · intro units size habsent
    rw [WideText.text]
    rcases habsent with rfl | rfl
    · exact List.take_nil
    · exact List.take_zero
  · intro units rest
    exact List.take_left

/-- A host whose blocks are all taken, behind a console that shows every event. -/
def exhausted : Bridge (Finset Address) :=
  { Allocator.twoBlocksBridge with host := {0x10, 0x20}, subscriber := .console .trace }

theorem pathName_of_exhausted :
    exhausted.IsQuiet ∧ (exhausted.exported (.pathName 0x3000 true)).1 = .text 0 none ∧
      (exhausted.exported (.pathName 0x3000 true)).2.steps
        = [.call (.pathName 0x3000), .call (.allocate 2),
          .call (.print (Utf16.encode ("[ERROR] unrealsdk call failed" ++
            " function=uobject_path_name error=host allocator failed to provide 2 bytes\n")))] ∧
      (exhausted.exported (.pathName 0x3000 true)).2.host = {0x10, 0x20} := by
  have hquiet : exhausted.IsQuiet := by
    intro hook hhook text host memory
    cases hhook
    rfl
  obtain ⟨-, ⟨calls, hdirect, -, hsteps⟩, hsame, -⟩ :=
    exported_agrees (.pathName 0x3000 true) exhausted
  obtain ⟨hreply, hhost, -, -⟩ := hsame hquiet
  have hcalls : calls = [.call (.pathName 0x3000), .call (.allocate 2)] := hdirect.symm.trans rfl
  have hline : (ExportedCall.failure (.pathName 0x3000 true) (.allocationFailed 2)).line
      = "[ERROR] unrealsdk call failed" ++
        " function=uobject_path_name error=host allocator failed to provide 2 bytes\n" := by
    decide +kernel
  rw [hcalls] at hsteps
  rw [← hline]
  exact ⟨hquiet, hreply.trans rfl, hsteps.trans rfl, hhost.trans rfl⟩

end Bridge

end HostBridge
