import HostBridge.Bridge.Exports
import HostBridge.Host.Scripted
import HostBridge.Proofs.Bridge.Allocator
import HostBridge.Proofs.Bridge.Console

/-!
# Kept blocks

A bridge keeps the blocks that its host hands out through it until they are released. It also drops
a block whose reallocation fails, although the host leaves such a block where it is: what is kept
falls short of what is live by exactly these stranded blocks.
-/

namespace HostBridge

variable {σ : Type} {hook : Hook σ} {bridge : Bridge σ}

open Bridge

inductive Surface where
  | library
  | exported
  deriving DecidableEq, Repr

/-- A request that is about blocks. A text whose block is handed over is never dropped; its block is
released instead. -/
inductive BlockRequest where
  | allocate (surface : Surface) (length : Nat)
  | reallocate (surface : Surface) (block : Address) (length : Nat)
  | release (surface : Surface) (block : Address)
  | pathName (surface : Surface) (object : Address)
  | dropText (text : HostText)
  deriving DecidableEq, Repr

def BlockRequest.given : BlockRequest → Address
  | .reallocate _ block _ => block
  | .release _ block => block
  | .dropText text => text.block
  | .allocate .. => 0
  | .pathName .. => 0

namespace Bridge

def blockOf (outcome : Except Error Address × Bridge σ) : Address × Bridge σ :=
  (outcome.1.toOption.getD 0, outcome.2)

def carryOut (bridge : Bridge σ) : BlockRequest → Address × Bridge σ
  | .allocate .library length => blockOf (bridge.allocate length)
  | .allocate .exported length => Exports.allocate length bridge
  | .reallocate .library block length => blockOf (bridge.reallocate block length)
  | .reallocate .exported block length => Exports.reallocate block length bridge
  | .release .library block => (0, (bridge.release block).2)
  | .release .exported block => (0, Exports.release block bridge)
  | .pathName .library object =>
    blockOf ((bridge.pathName object).1.map HostText.block, (bridge.pathName object).2)
  | .pathName .exported object => Exports.mapAnswer Prod.fst (Exports.pathName object bridge)
  | .dropText text => (0, bridge.dropText text)

def carryOutAll (bridge : Bridge σ) (requests : List BlockRequest) : Bridge σ :=
  requests.foldl (fun bridge request => (bridge.carryOut request).2) bridge

end Bridge

/-- The blocks whose last reallocation failed, once a request is answered. -/
def strandedAfter (stranded : Finset Address) : BlockRequest → Address → Finset Address
  | .reallocate _ block length, fresh => strandedBy stranded block length fresh
  | .release _ block, _ => stranded.erase block
  | .dropText text, _ => stranded.erase text.block
  | .allocate .., _ => stranded
  | .pathName .., _ => stranded

def Bridge.strandedAll : Bridge σ → Finset Address → List BlockRequest → Finset Address
  | _, stranded, [] => stranded
  | bridge, stranded, request :: rest =>
    (bridge.carryOut request).2.strandedAll
      (strandedAfter stranded request (bridge.carryOut request).1) rest

namespace Allocator

variable (allocator : Allocator hook)

/-- Whether requests hand back null or blocks that are live at the time. -/
def Proper : Bridge σ → List BlockRequest → Prop
  | _, [] => True
  | bridge, request :: rest =>
    (request.given = 0 ∨ request.given ∈ allocator.live bridge.host) ∧
      Proper (bridge.carryOut request).2 rest

/-- Whether a bridge to a host keeps its live blocks but for the stranded ones. -/
structure Tracks (bridge : Bridge σ) (stranded : Finset Address) : Prop where
  bound : bridge.gate.hook = some hook
  counted : Counted bridge.blocks (allocator.live bridge.host) stranded

variable {allocator} {stranded : Finset Address}

namespace Tracks

theorem live_ask (allocator : Allocator hook) (bridge : Bridge σ) (call : HostCall)
    (hadmits : call.Admits (allocator.live bridge.host)) :
    call.Grants (allocator.live bridge.host) (bridge.ask hook call).1 ∧
      allocator.live (bridge.ask hook call).2.host
        = call.liveAfter (allocator.live bridge.host) (bridge.ask hook call).1 :=
  allocator.contract call bridge.host bridge.memory hadmits

theorem raise (h : allocator.Tracks bridge stranded) (event : Event) :
    allocator.Tracks (bridge.raise event) stranded := by
  have hreceive (text : List Utf16.Unit) (other : Bridge σ) (h : allocator.Tracks other stranded) :
      allocator.Tracks (sink.receive text other) stranded := by
    obtain ⟨-, hlive⟩ := live_ask allocator other (.print text) trivial
    simp only [sink, h.bound]
    exact ⟨h.bound, hlive ▸ h.counted⟩
  have hraise : allocator.Tracks
      (sink.raise bridge.threshold event ⟨bridge, bridge.isWriting⟩).state stranded :=
    Sink.raise_invariant (P := fun other => allocator.Tracks other stranded) hreceive
      bridge.threshold event h
  exact ⟨hraise.bound, hraise.counted⟩

theorem report {α : Type} (outcome : Except Error α × Bridge σ)
    (h : allocator.Tracks outcome.2 stranded) (function : String) (fallback : α) :
    allocator.Tracks (Exports.report function fallback outcome).2 stranded := by
  obtain ⟨error | answer, bridge⟩ := outcome
  · exact h.raise _
  · exact h

theorem of_keepBlock {block : Address} (hbound : bridge.gate.hook = some hook)
    (hcounted : Counted (if block = 0 then bridge.blocks else bridge.blocks.insert block)
      (allocator.live bridge.host) stranded) :
    allocator.Tracks (bridge.keepBlock block) stranded := by
  unfold keepBlock
  by_cases hnull : block = 0
  · rw [if_pos hnull] at hcounted ⊢
    exact ⟨hbound, hcounted⟩
  · rw [if_neg hnull] at hcounted ⊢
    exact ⟨hbound, hcounted⟩

theorem allocate (h : allocator.Tracks bridge stranded) (length : Nat) :
    allocator.Tracks (bridge.allocate length).2 stranded := by
  obtain ⟨hgrants, hlive⟩ := live_ask allocator bridge (.allocate length) trivial
  rw [Bridge.allocate, call_of_bound h.bound]
  exact of_keepBlock h.bound (hlive ▸ h.counted.handOut hgrants)

theorem reallocate (h : allocator.Tracks bridge stranded) {block : Address} (length : Nat)
    (hadmits : block = 0 ∨ block ∈ allocator.live bridge.host) :
    ∃ fresh after, bridge.reallocate block length = (.ok fresh, after) ∧
      allocator.Tracks after (strandedBy stranded block length fresh) := by
  obtain ⟨hgrants, hlive⟩ := live_ask allocator bridge (.reallocate block length) hadmits
  rw [Bridge.reallocate, call_of_bound h.bound]
  exact ⟨_, _, rfl, of_keepBlock h.bound (hlive ▸ h.counted.handOver hadmits hgrants)⟩

theorem release (h : allocator.Tracks bridge stranded) {block : Address}
    (hadmits : block = 0 ∨ block ∈ allocator.live bridge.host) :
    ∃ after, bridge.release block = (.ok (), after) ∧
      allocator.Tracks after (stranded.erase block) := by
  obtain ⟨-, hlive⟩ := live_ask allocator bridge (.release block) hadmits
  rw [Bridge.release, call_of_bound h.bound]
  exact ⟨_, rfl, h.bound, hlive ▸ h.counted.erase block⟩

theorem pathName (h : allocator.Tracks bridge stranded) (object : Address) :
    allocator.Tracks (bridge.pathName object).2 stranded := by
  obtain ⟨-, hlive⟩ := live_ask allocator bridge (.pathName object) trivial
  have hasked : allocator.Tracks (bridge.ask hook (.pathName object)).2 stranded :=
    ⟨h.bound, hlive ▸ h.counted⟩
  rw [Bridge.pathName, call_of_bound h.bound]
  have hallocated := hasked.allocate
    (HostText.byteLength (List.length (bridge.ask hook (.pathName object)).1))
  dsimp only
  split
  next hfailed =>
    rw [hfailed] at hallocated
    exact hallocated
  next hblock =>
    rw [hblock] at hallocated
    split
    · exact hallocated
    · exact ⟨hallocated.bound, hallocated.counted⟩

end Tracks

theorem Tracks.carryOut (h : allocator.Tracks bridge stranded) {request : BlockRequest}
    (hproper : request.given = 0 ∨ request.given ∈ allocator.live bridge.host) :
    allocator.Tracks (bridge.carryOut request).2
      (strandedAfter stranded request (bridge.carryOut request).1) := by
  cases request with
  | allocate surface length =>
      cases surface with
      | library => exact h.allocate length
      | exported => exact Tracks.report _ ((h.raise _).allocate length) _ _
  | reallocate surface block length =>
      obtain ⟨fresh, after, houtcome, hafter⟩ := h.reallocate length hproper
      have hanswer : bridge.carryOut (.reallocate surface block length) = (fresh, after) := by
        cases surface with
        | library => exact congrArg blockOf houtcome
        | exported => exact congrArg (Exports.report "u_realloc" 0) houtcome
      rw [hanswer]
      exact hafter
  | release surface block =>
      change block = 0 ∨ block ∈ allocator.live bridge.host at hproper
      obtain ⟨after, houtcome, hafter⟩ := h.release hproper
      cases surface with
      | library =>
          rw [Bridge.carryOut, houtcome]
          exact hafter
      | exported =>
          rw [Bridge.carryOut, Exports.release]
          -- The exported call does not ask the host to release null.
          by_cases hnull : block = 0
          · have hnone : 0 ∉ stranded := fun hmem =>
              h.counted.null_not_live (h.counted.stranded_live hmem)
            rw [if_pos hnull, strandedAfter, hnull, Finset.erase_eq_of_notMem hnone]
            exact h
          · rw [if_neg hnull, houtcome]
            exact hafter
  | pathName surface object =>
      cases surface with
      | library => exact h.pathName object
      | exported =>
          exact Tracks.report ((bridge.pathName object).1.map fun text =>
            (text.block, some text.length), (bridge.pathName object).2) (h.pathName object) _ _
  | dropText text =>
      change text.block = 0 ∨ text.block ∈ allocator.live bridge.host at hproper
      obtain ⟨after, houtcome, hafter⟩ := h.release hproper
      rw [Bridge.carryOut, dropText, houtcome]
      exact hafter

theorem Tracks.carryOutAll (h : allocator.Tracks bridge stranded) {requests : List BlockRequest}
    (hproper : allocator.Proper bridge requests) :
    allocator.Tracks (bridge.carryOutAll requests) (bridge.strandedAll stranded requests) := by
  induction requests generalizing bridge stranded with
  | nil => exact h
  | cons request rest ih =>
      obtain ⟨hgiven, hrest⟩ := hproper
      exact ih (h.carryOut hgiven) hrest

/-- A bridge that starts without blocks keeps, after any requests that hand back null or live blocks
only, the live blocks that are not stranded. So it counts all blocks that are live as long as none
is stranded, and no longer. -/
theorem keptBlocks_add_stranded (allocator : Allocator hook) (hbound : bridge.gate.hook = some hook)
    (hblocks : bridge.blocks = []) (hlive : allocator.live bridge.host = ∅)
    {requests : List BlockRequest} (hproper : allocator.Proper bridge requests) :
    let final := bridge.carryOutAll requests
    let live := allocator.live final.host
    let stranded := bridge.strandedAll ∅ requests
    (∀ block, block ∈ final.blocks ↔ block ∈ live ∧ block ∉ stranded) ∧ stranded ⊆ live ∧
      final.keptBlocks + stranded.card = live.card ∧
      (final.keptBlocks = live.card ↔ stranded = ∅) := by
  intro final live stranded
  have hstart : allocator.Tracks bridge ∅ := ⟨hbound, by rw [hblocks, hlive]; exact Counted.nil⟩
  have hcounted : Counted final.blocks live stranded := (hstart.carryOutAll hproper).counted
  have hcard : final.keptBlocks + stranded.card = live.card := hcounted.length_add_card
  refine ⟨hcounted.mem_iff, hcounted.stranded_live, hcard, ?_⟩
  rw [← Finset.card_eq_zero]
  omega

/-- The first of two blocks of sixteen bytes that is not live; null if there is none or if it is too
small. -/
def pick (live : Finset Address) (length : Nat) : Address :=
  if length = 0 ∨ 16 < length then 0 else ([0x10, 0x20].find? (· ∉ live)).getD 0

theorem pick_grants (live : Finset Address) (length : Nat) :
    pick live length = 0 ∨ pick live length ∉ live := by
  unfold pick
  split
  · exact .inl rfl
  · cases hfind : [0x10, 0x20].find? (· ∉ live) with
    | none => exact .inl rfl
    | some block =>
        have hfound := List.find?_some hfind
        exact .inr (of_decide_eq_true hfound)

def pickAnswer (live : Finset Address) (memory : Memory) : (call : HostCall) → call.Answer
  | .allocate length => pick live length
  | .reallocate block length => pick (live.erase block) length
  | call => (ScriptedHost.serve call ScriptedHost.quiet memory).1

def twoBlocks : Hook (Finset Address) where
  flavour := .oak
  registry := ⟨.oak, 0⟩
  offsets := OffsetTable.ofFlavour .oak
  isConsoleReady _ := true
  echoes _ := []
  serve call live memory :=
    (pickAnswer live memory call, call.liveAfter live (pickAnswer live memory call), memory)

def twoBlocksAllocator : Allocator twoBlocks where
  live := id
  contract call live memory _ := by
    refine ⟨?_, rfl⟩
    cases call with
    | allocate length => exact pick_grants live length
    | reallocate block length => exact pick_grants (live.erase block) length
    | _ => trivial

def twoBlocksBridge : Bridge (Finset Address) :=
  { Bridge.fresh ∅ ⟨none, none, "", ⟨[]⟩⟩ with gate := Gate.bind twoBlocks }

theorem kept_after_moves :
    let requests : List BlockRequest := [.allocate .library 16, .allocate .exported 16,
      .release .library 0x10, .reallocate .library 0x20 8, .pathName .exported 0x3000,
      .reallocate .exported 0x10 0, .release .exported 0, .dropText ⟨0x20, 0⟩,
      .pathName .library 0x3000]
    let final := twoBlocksBridge.carryOutAll requests
    twoBlocksBridge.gate.hook = some twoBlocks ∧ twoBlocksBridge.blocks = [] ∧
      twoBlocksAllocator.live twoBlocksBridge.host = ∅ ∧
      twoBlocksAllocator.Proper twoBlocksBridge requests ∧
      final.keptBlocks = (twoBlocksAllocator.live final.host).card := by
  intro requests final
  have hproper : twoBlocksAllocator.Proper twoBlocksBridge requests := by
    refine ⟨?_, ?_, ?_, ?_, ?_, ?_, ?_, ?_, ?_, trivial⟩ <;> decide +kernel
  refine ⟨rfl, rfl, rfl, hproper, ?_⟩
  obtain ⟨-, -, -, hcount⟩ := keptBlocks_add_stranded twoBlocksAllocator rfl rfl rfl hproper
  exact hcount.mpr (by decide +kernel)

/-- A block whose reallocation fails is live but no longer counted. -/
theorem stranded_not_kept :
    let requests : List BlockRequest := [.allocate .library 16, .reallocate .library 0x10 100]
    let final := twoBlocksBridge.carryOutAll requests
    twoBlocksBridge.gate.hook = some twoBlocks ∧ twoBlocksBridge.blocks = [] ∧
      twoBlocksAllocator.live twoBlocksBridge.host = ∅ ∧
      twoBlocksAllocator.Proper twoBlocksBridge requests ∧
      final.keptBlocks = 0 ∧ (twoBlocksAllocator.live final.host).card = 1 := by
  intro requests final
  have hproper : twoBlocksAllocator.Proper twoBlocksBridge requests := by
    refine ⟨?_, ?_, trivial⟩ <;> decide +kernel
  exact ⟨rfl, rfl, rfl, hproper, by decide +kernel, by decide +kernel⟩

end Allocator

end HostBridge
