import HostBridge.Bridge.Calls

namespace HostBridge

namespace Sink

variable {σ : Type} {sink : Sink σ} {console : Console σ}

theorem raise_of_not_ready (h : sink.isReady console.state = false) (threshold : Option Level)
    (event : Event) : sink.raise threshold event console = console := by
  have hshows : sink.shows threshold event console = false := by
    rw [shows, h, Bool.and_false, Bool.false_and]
  rw [raise, depth, raise?, hshows]
  rfl

section Invariants

variable {P : σ → Prop} (hreceive : ∀ text state, P state → P (sink.receive text state))

include hreceive

theorem shown_invariant (threshold : Option Level) (event : Event) {state : σ} (h : P state) :
    P (sink.shown threshold state event) := by
  rw [shown]
  split
  · exact hreceive _ _ h
  · exact h

theorem raise_invariant (threshold : Option Level) (event : Event) (h : P console.state) :
    P (sink.raise threshold event console).state := by
  obtain ⟨state, isWriting⟩ := console
  cases isWriting with
  | true =>
      rw [raise, depth, raise?_of_isWriting]
      exact h
  | false =>
      rw [raise_idle]
      exact shown_invariant hreceive threshold event h

/-- What holds of a receiver once it has got a text, and then whatever it receives, holds after the
text is delivered. -/
theorem deliver_invariant (threshold : Option Level) (text : List Utf16.Unit)
    (h : P (sink.receive text console.state)) : P (sink.deliver threshold text console).state := by
  obtain ⟨state, isWriting⟩ := console
  cases isWriting with
  | true =>
      rw [deliver, depth, deliver?_of_isWriting]
      exact h
  | false =>
      rw [deliver_idle]
      have hfold (events : List Event) (state : σ) (h : P state) :
          P (events.foldl (sink.shown threshold) state) := by
        induction events generalizing state with
        | nil => exact h
        | cons event rest ih => exact ih _ (shown_invariant hreceive threshold event h)
      exact hfold _ _ h

end Invariants

end Sink

namespace Bridge

variable {σ : Type} {bridge : Bridge σ}

theorem isConsoleReady_of_unbound (h : bridge.gate.hook = none) :
    bridge.isConsoleReady = false := by
  rw [isConsoleReady, Gate.isConsoleReady, h]
  rfl

theorem raise_of_unbound (h : bridge.gate.hook = none) (event : Event) :
    bridge.raise event = bridge := by
  have hready : sink.isReady bridge = false := isConsoleReady_of_unbound h
  rw [raise, onConsole, Sink.raise_of_not_ready hready]

theorem print_of_unbound (h : bridge.gate.hook = none) (text : List Utf16.Unit) :
    bridge.print text = bridge := by
  have hreceive : sink.receive text bridge = bridge := by
    simp only [sink, h]
  have hechoes : sink.echoes bridge = [] := by
    simp only [sink, h]
  rw [print, onConsole, Sink.deliver, Sink.depth, Sink.deliver?, hreceive, hechoes]
  rfl

/-- Whether a bridge differs from another one in nothing but its host, the memory, the steps taken,
and whether a line is being written. -/
structure HostMoves (before after : Bridge σ) : Prop where
  gate : after.gate = before.gate
  environment : after.environment = before.environment
  loaded : after.loaded = before.loaded
  subscriber : after.subscriber = before.subscriber
  logging : after.logging = before.logging
  blocks : after.blocks = before.blocks

theorem HostMoves.rfl : HostMoves bridge bridge := by
  constructor <;> exact Eq.refl _

theorem HostMoves.trans {first second third : Bridge σ} (h : HostMoves first second)
    (h' : HostMoves second third) : HostMoves first third where
  gate := h'.gate.trans h.gate
  environment := h'.environment.trans h.environment
  loaded := h'.loaded.trans h.loaded
  subscriber := h'.subscriber.trans h.subscriber
  logging := h'.logging.trans h.logging
  blocks := h'.blocks.trans h.blocks

theorem hostMoves_receive (text : List Utf16.Unit) (bridge : Bridge σ) :
    HostMoves bridge (sink.receive text bridge) := by
  simp only [sink]
  split <;> constructor <;> rfl

/-- The events that the host raises while it prints the line are dropped. -/
theorem raise_eq (bridge : Bridge σ) (event : Event) :
    bridge.raise event =
      if sink.shows bridge.threshold event ⟨bridge, bridge.isWriting⟩ then
        sink.receive (Utf16.encode event.line) bridge
      else bridge := by
  rw [raise, onConsole]
  cases hwriting : bridge.isWriting with
  | true =>
      have hhidden : sink.shows bridge.threshold event ⟨bridge, true⟩ = false := by
        rw [Sink.shows, Bool.not_true, Bool.and_false]
      rw [hhidden, Sink.raise, Sink.depth, Sink.raise?_of_isWriting]
      exact congrArg (fun isWriting => { bridge with isWriting := isWriting }) hwriting.symm
  | false =>
      rw [Sink.raise_idle, Sink.shown]
      split
      · have hsame : (sink.receive (Utf16.encode event.line) bridge).isWriting = false := by
          simp only [sink]
          split <;> exact hwriting
        rw [← hsame]
      · rw [← hwriting]

theorem hostMoves_raise (bridge : Bridge σ) (event : Event) :
    HostMoves bridge (bridge.raise event) := by
  rw [raise_eq]
  split
  · exact hostMoves_receive _ bridge
  · exact HostMoves.rfl

theorem hostMoves_print (bridge : Bridge σ) (text : List Utf16.Unit) :
    HostMoves bridge (bridge.print text) := by
  have hreceive (text : List Utf16.Unit) (other : Bridge σ) (h : HostMoves bridge other) :
      HostMoves bridge (sink.receive text other) := h.trans (hostMoves_receive text other)
  have hprint : HostMoves bridge
      (sink.deliver bridge.threshold text ⟨bridge, bridge.isWriting⟩).state :=
    Sink.deliver_invariant (P := HostMoves bridge) hreceive bridge.threshold text
      (hostMoves_receive text bridge)
  exact ⟨hprint.gate, hprint.environment, hprint.loaded, hprint.subscriber, hprint.logging,
    hprint.blocks⟩

theorem gate_print (bridge : Bridge σ) (text : List Utf16.Unit) :
    (bridge.print text).gate = bridge.gate := (hostMoves_print bridge text).gate

theorem call_of_unbound (h : bridge.gate.hook = none) (request : HostCall) :
    bridge.call request = (.error .notInitialized, bridge) := by
  rw [call, h]

theorem call_of_bound {hook : Hook σ} (h : bridge.gate.hook = some hook) (request : HostCall) :
    bridge.call request = (.ok (bridge.ask hook request).1, (bridge.ask hook request).2) := by
  simp only [call, h]

theorem ask_of_serve {hook : Hook σ} {request : HostCall} {answer : request.Answer} {host : σ}
    {memory : Memory}
    (h : hook.serve request bridge.host bridge.memory = (answer, host, memory)) :
    bridge.ask hook request = (answer, { bridge with
      host := host, memory := memory, steps := bridge.steps ++ [.call request] }) := by
  rw [ask, h]

theorem hostMoves_call (request : HostCall) (bridge : Bridge σ) :
    HostMoves bridge (bridge.call request).2 := by
  rw [call]
  split <;> constructor <;> rfl

theorem steps_receive (text : List Utf16.Unit) (bridge : Bridge σ) :
    bridge.steps <+: (sink.receive text bridge).steps := by
  simp only [sink]
  split
  · exact List.prefix_append _ _
  · exact List.prefix_rfl

/-- The host gets a text before anything else that this gives rise to. -/
theorem steps_print {hook : Hook σ} (h : bridge.gate.hook = some hook) (text : List Utf16.Unit) :
    bridge.steps ++ [.call (.print text)] <+: (bridge.print text).steps := by
  have hreceive (text' : List Utf16.Unit) (other : Bridge σ)
      (h : bridge.steps ++ [.call (.print text)] <+: other.steps) :
      bridge.steps ++ [.call (.print text)] <+: (sink.receive text' other).steps :=
    h.trans (steps_receive text' other)
  have hfirst : (sink.receive text bridge).steps = bridge.steps ++ [.call (.print text)] := by
    simp only [sink, h]
    rfl
  refine Sink.deliver_invariant
    (P := fun other : Bridge σ => bridge.steps ++ [.call (.print text)] <+: other.steps) hreceive
    bridge.threshold text ?_
  exact ⟨[], by rw [List.append_nil, hfirst]⟩

def lines (bridge : Bridge σ) (event : Event) : List HostStep :=
  if sink.shows bridge.threshold event ⟨bridge, bridge.isWriting⟩ then
    [.call (.print (Utf16.encode event.line))]
  else []

theorem eq_print_of_mem_lines {event : Event} {step : HostStep} (h : step ∈ bridge.lines event) :
    ∃ text, step = .call (.print text) := by
  rw [lines] at h
  split at h
  · exact ⟨_, List.mem_singleton.mp h⟩
  · cases h

theorem bound_of_shows {threshold : Option Level} {event : Event} {isWriting : Bool}
    (h : sink.shows threshold event ⟨bridge, isWriting⟩ = true) :
    ∃ hook, bridge.gate.hook = some hook := by
  cases hhook : bridge.gate.hook with
  | some hook => exact ⟨hook, rfl⟩
  | none =>
      have hready : sink.isReady bridge = false := isConsoleReady_of_unbound hhook
      rw [Sink.shows, hready, Bool.and_false, Bool.false_and] at h
      cases h

theorem receive_of_bound {hook : Hook σ} (h : bridge.gate.hook = some hook)
    (text : List Utf16.Unit) :
    sink.receive text bridge = (bridge.ask hook (.print text)).2 := by
  simp only [sink, h]

theorem steps_raise (bridge : Bridge σ) (event : Event) :
    (bridge.raise event).steps = bridge.steps ++ bridge.lines event := by
  rw [raise_eq, lines]
  split
  next hshown =>
    obtain ⟨hook, hhook⟩ := bound_of_shows hshown
    rw [receive_of_bound hhook]
    rfl
  next => rw [List.append_nil]

/-- Whether the host's console routine changes nothing but what the console shows. -/
def IsQuiet (bridge : Bridge σ) : Prop :=
  ∀ hook, bridge.gate.hook = some hook → ∀ text host memory,
    hook.serve (.print text) host memory = ((), host, memory)

theorem raise_of_isQuiet (h : bridge.IsQuiet) (event : Event) :
    bridge.raise event = { bridge with steps := bridge.steps ++ bridge.lines event } := by
  have hsteps := steps_raise bridge event
  rw [raise_eq] at hsteps ⊢
  split at hsteps
  next hshown =>
    obtain ⟨hook, hhook⟩ := bound_of_shows hshown
    rw [if_pos hshown, ← hsteps, receive_of_bound hhook, ask, h hook hhook]
  next hhidden => rw [if_neg hhidden, ← hsteps]

end Bridge

end HostBridge
