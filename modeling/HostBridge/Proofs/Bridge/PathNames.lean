import HostBridge.Proofs.Bridge.Surfaces
import HostBridge.Proofs.Memory.Region

namespace HostBridge

variable {σ : Type} {hook : Hook σ} {bridge : Bridge σ} {units : List Utf16.Unit} {block : Address}

namespace HostText

variable {memory : Memory}

theorem unitsAt_prefix (memory : Memory) (start : Address) {count count' : Nat}
    (h : count ≤ count') : unitsAt memory start count <+: unitsAt memory start count' := by
  obtain ⟨more, rfl⟩ := Nat.exists_eq_add_of_le h
  rw [unitsAt, unitsAt, List.range_add, List.map_append]
  exact List.prefix_append _ _

/-- Reading on behind the zero at the end makes no difference to what ends before the first zero. -/
theorem terminated_unitsAt (h : memory.Holds block (units ++ [0])) {count : Nat}
    (hcount : units.length < count) :
    WideText.terminated (some (unitsAt memory block count)) = units.takeWhile (· != 0) := by
  have hwhole : unitsAt memory block (units ++ [0]).length = units ++ [0] := h.map_read
  have hlength : (units ++ [0]).length ≤ count := by
    rw [List.length_append, List.length_singleton]
    exact hcount
  have hstart := unitsAt_prefix memory block hlength
  rw [hwhole] at hstart
  obtain ⟨rest, hrest⟩ := hstart
  rw [← hrest, List.append_assoc]
  exact Bridge.terminated_append units rest

end HostText

namespace Bridge

open Exports (report callFailed)

theorem length_image (units : List Utf16.Unit) :
    ((units ++ [0]).flatMap Stored.encode).length = HostText.byteLength units.length := by
  rw [Memory.length_flatMap_encode, List.length_append]
  rfl

theorem holds_writeText (hfits : HostText.byteLength units.length ≤ UInt64.size) :
    (bridge.writeText block units).memory.Holds block (units ++ [0]) := by
  refine Memory.holds_store ?_
  rwa [← Memory.length_flatMap_encode, length_image]

theorem byte_writeText {address : Address}
    (h : address ∉ (⟨block, HostText.byteLength units.length⟩ : Region)) :
    (bridge.writeText block units).memory.byte address = bridge.memory.byte address := by
  refine Memory.byte_store_of_le ?_
  rw [length_image]
  exact Nat.le_of_not_lt h

theorem pathName_of_bound (hbound : bridge.gate.hook = some hook) {object : Address} {host : σ}
    {memory : Memory}
    (hname : hook.serve (.pathName object) bridge.host bridge.memory = (units, host, memory))
    {host' : σ} {memory' : Memory}
    (hblock : hook.serve (.allocate (HostText.byteLength units.length)) host memory
      = (block, host', memory')) :
    ∃ asked : Bridge σ, asked.memory = memory' ∧
      asked.steps = bridge.steps ++
        [.call (.pathName object), .call (.allocate (HostText.byteLength units.length))] ∧
      asked.blocks = (if block = 0 then bridge.blocks else bridge.blocks.insert block) ∧
      bridge.pathName object =
        if block = 0 then
          (.error (.allocationFailed (HostText.byteLength units.length)), asked)
        else (.ok ⟨block, units.length⟩, asked.writeText block units) := by
  let named : Bridge σ := { bridge with
    host := host, memory := memory, steps := bridge.steps ++ [.call (.pathName object)] }
  have hnamed : named.gate.hook = some hook := hbound
  have hallocate := allocate_of_bound hnamed hblock
  refine ⟨(named.allocate (HostText.byteLength units.length)).2, ?_⟩
  rw [pathName, call_of_bound hbound, ask_of_serve hname]
  simp only [named] at hallocate ⊢
  simp only [hallocate, List.append_assoc, List.cons_append, List.nil_append, and_self]

theorem exported_pathName_of_error {object : Address} {error : Error} {after : Bridge σ}
    (h : bridge.pathName object = (.error error, after)) (hasPlace : Bool) :
    bridge.exported (.pathName object hasPlace)
      = (.text 0 none, after.raise (callFailed "uobject_path_name" error)) := by
  refine (exported_eq_report (.pathName object hasPlace) bridge).trans ?_
  change report _ _ (tell _ (bridge.pathName object)) = _
  rw [h]
  rfl

theorem exported_pathName_of_ok {object : Address} {text : HostText} {after : Bridge σ}
    (h : bridge.pathName object = (.ok text, after)) (hasPlace : Bool) :
    bridge.exported (.pathName object hasPlace)
      = (.text text.block (if hasPlace then some text.length else none), after) := by
  refine (exported_eq_report (.pathName object hasPlace) bridge).trans ?_
  change report _ _ (tell _ (bridge.pathName object)) = _
  rw [h]
  cases hasPlace with
  | true => rfl
  | false => rfl

theorem dropText_of_bound (hbound : bridge.gate.hook = some hook) (text : HostText) :
    bridge.dropText text =
      let served := hook.serve (.release text.block) bridge.host bridge.memory
      { bridge with
        host := served.2.1
        memory := served.2.2
        steps := bridge.steps ++ [.call (.release text.block)]
        blocks := bridge.blocks.erase text.block } := by
  rw [dropText, release, call_of_bound hbound]
  rfl

/-- The host is asked for the units and for one block, which is just long enough for them and a
zero. If there is none, the call fails with that length, keeps and writes nothing, and the exported
call writes no length either. Otherwise the block holds the units and the zero, no other byte is
written, and reading on from the start of the block finds the units before the first zero. The
exported call and handing the text over leave the block with the host; dropping the text releases
it, once. -/
theorem pathName_copied_and_owned (hbound : bridge.gate.hook = some hook) (object : Address)
    (hasPlace : Bool) {host : σ} {memory : Memory}
    (hname : hook.serve (.pathName object) bridge.host bridge.memory = (units, host, memory))
    {host' : σ} {memory' : Memory}
    (hblock : hook.serve (.allocate (2 * (units.length + 1))) host memory
      = (block, host', memory')) :
    let length := 2 * (units.length + 1)
    let outcome := bridge.pathName object
    let after := outcome.2
    let exported := bridge.exported (.pathName object hasPlace)
    after.steps = bridge.steps ++ [.call (.pathName object), .call (.allocate length)] ∧
      (block = 0 →
        outcome.1 = .error (.allocationFailed length) ∧ after.memory = memory' ∧
          after.blocks = bridge.blocks ∧
          exported = (.text 0 none,
            after.raise (callFailed "uobject_path_name" (.allocationFailed length))) ∧
          exported.2.blocks = bridge.blocks ∧
          ∃ lines, exported.2.steps = after.steps ++ lines ∧
            ∀ step ∈ lines, ∃ text, step = .call (.print text)) ∧
      (block ≠ 0 →
        let text : HostText := ⟨block, units.length⟩
        outcome.1 = .ok text ∧ after.blocks = bridge.blocks.insert block ∧
          (∀ address ∉ (⟨block, length⟩ : Region),
            after.memory.byte address = memory'.byte address) ∧
          (length ≤ UInt64.size →
            after.memory.Holds block (units ++ [0]) ∧
              ∀ count, units.length < count →
                WideText.terminated (some (HostText.unitsAt after.memory block count))
                  = units.takeWhile (· != 0)) ∧
          exported = (.text block (if hasPlace then some units.length else none), after) ∧
          ∀ later : Bridge σ, later.gate.hook = some hook →
            later.handOver text = (block, later) ∧
              (later.dropText text).steps = later.steps ++ [.call (.release block)] ∧
              (later.dropText text).blocks = later.blocks.erase block) := by
  intro length outcome after exported
  obtain ⟨asked, hmemory, hsteps, hblocks, houtcome⟩ := pathName_of_bound hbound hname hblock
  by_cases hnull : block = 0
  · rw [if_pos hnull] at hblocks houtcome
    have hafter : after = asked := congrArg Prod.snd houtcome
    have hexported : exported = (.text 0 none,
        asked.raise (callFailed "uobject_path_name" (.allocationFailed length))) :=
      exported_pathName_of_error houtcome hasPlace
    rw [hafter, hexported]
    refine ⟨hsteps, fun _ => ?_, fun hblock => absurd hnull hblock⟩
    exact ⟨congrArg Prod.fst houtcome, hmemory, hblocks, rfl,
      (hostMoves_raise asked _).blocks.trans hblocks, _, steps_raise asked _,
      fun step hstep => eq_print_of_mem_lines hstep⟩
  · rw [if_neg hnull] at hblocks houtcome
    have hafter : after = asked.writeText block units := congrArg Prod.snd houtcome
    have hexported := exported_pathName_of_ok houtcome hasPlace
    rw [← hafter] at hexported
    refine ⟨hafter ▸ hsteps, fun hblock => absurd hblock hnull, fun _ => ?_⟩
    refine ⟨congrArg Prod.fst houtcome, hafter ▸ hblocks, fun address haddress => ?_,
      fun hfits => ?_, hexported, fun later hlater => ?_⟩
    · rw [hafter, byte_writeText haddress, hmemory]
    · have hholds : after.memory.Holds block (units ++ [0]) := by
        rw [hafter]
        exact holds_writeText hfits
      exact ⟨hholds, fun count hcount => HostText.terminated_unitsAt hholds hcount⟩
    · rw [dropText_of_bound hlater]
      exact ⟨rfl, rfl, rfl⟩

/-- A host with one path name, in which there are a zero and half a pair of surrogates. -/
def namingHost (longestBlock : Nat) : ScriptedHost :=
  { ScriptedHost.quiet with
    pathName := [0x61, 0, 0xD800], longestBlock := longestBlock, nextBlock := 0x3000 }

def naming (longestBlock : Nat) : Bridge ScriptedHost :=
  let host := namingHost longestBlock
  { Bridge.fresh host ⟨none, none, "", ⟨[]⟩⟩ with gate := Gate.bind (host.hook .oak) }

theorem pathName_of_naming :
    let units : List Utf16.Unit := [0x61, 0, 0xD800]
    let text : HostText := ⟨0x3000, 3⟩
    let hook (longestBlock : Nat) := (namingHost longestBlock).hook .oak
    let named (longestBlock : Nat) := (naming longestBlock).pathName 0x500
    (∀ longestBlock, (naming longestBlock).gate.hook = some (hook longestBlock) ∧
      (hook longestBlock).serve (.pathName 0x500) (namingHost longestBlock) Memory.zeroed
        = (units, namingHost longestBlock, Memory.zeroed)) ∧
      ((hook 8).serve (.allocate 8) (namingHost 8) Memory.zeroed
          = ((0x3000 : Address), { namingHost 8 with nextBlock := 0x3010 }, Memory.zeroed) ∧
        (named 8).1 = .ok text ∧
        (named 8).2.memory.Holds 0x3000 (units ++ [0]) ∧
        WideText.terminated (some (HostText.unitsAt (named 8).2.memory 0x3000 100)) = [0x61] ∧
        ((named 8).2.dropText text).steps
          = [.call (.pathName 0x500), .call (.allocate 8), .call (.release 0x3000)] ∧
        ((named 8).2.dropText text).blocks = [] ∧
        (naming 8).exported (.pathName 0x500 false) = (.text 0x3000 none, (named 8).2)) ∧
      (hook 7).serve (.allocate 8) (namingHost 7) Memory.zeroed
          = ((0 : Address), namingHost 7, Memory.zeroed) ∧
        (named 7).1 = .error (.allocationFailed 8) ∧
        ((naming 7).exported (.pathName 0x500 true)).1 = .text 0 none := by
  intro units text hook named
  have hbound (longestBlock : Nat) :
      (naming longestBlock).gate.hook = some (hook longestBlock) := rfl
  have hname (longestBlock : Nat) :
      (hook longestBlock).serve (.pathName 0x500) (namingHost longestBlock) Memory.zeroed
        = (units, namingHost longestBlock, Memory.zeroed) := rfl
  have hgranted : (hook 8).serve (.allocate 8) (namingHost 8) Memory.zeroed
      = ((0x3000 : Address), { namingHost 8 with nextBlock := 0x3010 }, Memory.zeroed) := rfl
  have hrefused : (hook 7).serve (.allocate 8) (namingHost 7) Memory.zeroed
      = ((0 : Address), namingHost 7, Memory.zeroed) := rfl
  refine ⟨fun longestBlock => ⟨hbound longestBlock, hname longestBlock⟩, ⟨hgranted, ?_⟩,
    hrefused, ?_⟩
  · obtain ⟨hsteps, -, howned⟩ :=
      pathName_copied_and_owned (hbound 8) 0x500 false (hname 8) hgranted
    obtain ⟨hanswer, hblocks, -, hcontents, hexported, hend⟩ := howned (by decide)
    obtain ⟨hholds, hread⟩ := hcontents (by decide)
    obtain ⟨-, hreleased, herased⟩ := hend (named 8).2 rfl
    refine ⟨hanswer, hholds, (hread 100 (by decide)).trans rfl, ?_, ?_, hexported⟩
    · exact hreleased.trans (congrArg (· ++ [.call (.release 0x3000)]) hsteps)
    · exact herased.trans (congrArg (·.erase 0x3000) hblocks)
  · obtain ⟨-, hfails, -⟩ := pathName_copied_and_owned (hbound 7) 0x500 true (hname 7) hrefused
    obtain ⟨hanswer, -, -, hexported, -⟩ := hfails rfl
    exact ⟨hanswer, congrArg Prod.fst hexported⟩

end Bridge

end HostBridge
