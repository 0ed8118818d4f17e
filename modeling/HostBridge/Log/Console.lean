import HostBridge.Log.Event

/-!
# Log events on a console

A console shows an event as one line if the event passes a threshold and the console is ready. A
console may itself raise events when it receives text. Those raised while a line is being written
are dropped, so no event gives rise to lines without end: `raise?` and `deliver?` count how deep
they call one another, and `raise_idle` and `deliver_idle` say that `depth` is deep enough for both.
-/

namespace HostBridge

structure Sink (σ : Type) where
  isReady : σ → Bool
  receive : List Utf16.Unit → σ → σ
  /-- The events that it raises after it has received a text. -/
  echoes : σ → List Event

/-- A receiver and whether a line is being written to it. -/
structure Console (σ : Type) where
  state : σ
  isWriting : Bool

namespace Sink

variable {σ : Type}

/-- Whether an event is shown; without a threshold none is. -/
def shows (sink : Sink σ) (threshold : Option Level) (event : Event) (console : Console σ) : Bool :=
  threshold.any event.level.passes && sink.isReady console.state && !console.isWriting

mutual

/-- Raises an event; `none` if calls go deeper than the given depth. -/
def raise? (sink : Sink σ) (threshold : Option Level) :
    Nat → Event → Console σ → Option (Console σ)
  | 0, _, _ => none
  | depth + 1, event, console =>
    if sink.shows threshold event console then
      (deliver? sink threshold depth (Utf16.encode event.line) ⟨console.state, true⟩).map
        fun console => ⟨console.state, false⟩
    else some console

/-- Hands a text to the receiver and raises the events that this gives rise to. -/
def deliver? (sink : Sink σ) (threshold : Option Level) :
    Nat → List Utf16.Unit → Console σ → Option (Console σ)
  | 0, _, _ => none
  | depth + 1, text, console =>
    let state := sink.receive text console.state
    (sink.echoes state).foldlM (fun console event => raise? sink threshold depth event console)
      ⟨state, console.isWriting⟩

end

/-- How deep raising an event and delivering a text can go. -/
def depth : Nat := 4

def raise (sink : Sink σ) (threshold : Option Level) (event : Event) (console : Console σ) :
    Console σ :=
  (sink.raise? threshold depth event console).getD console

def deliver (sink : Sink σ) (threshold : Option Level) (text : List Utf16.Unit)
    (console : Console σ) : Console σ :=
  (sink.deliver? threshold depth text console).getD console

/-- What an event does to the receiver while no line is being written. -/
def shown (sink : Sink σ) (threshold : Option Level) (state : σ) (event : Event) : σ :=
  if sink.shows threshold event ⟨state, false⟩ then
    sink.receive (Utf16.encode event.line) state
  else state

theorem raise?_of_isWriting (sink : Sink σ) (threshold : Option Level) (depth : Nat)
    (event : Event) (state : σ) :
    sink.raise? threshold (depth + 1) event ⟨state, true⟩ = some ⟨state, true⟩ := by
  simp [raise?, shows]

theorem deliver?_of_isWriting (sink : Sink σ) (threshold : Option Level) (depth : Nat)
    (text : List Utf16.Unit) (state : σ) :
    sink.deliver? threshold (depth + 2) text ⟨state, true⟩
      = some ⟨sink.receive text state, true⟩ := by
  have hfold : ∀ events : List Event, ∀ state : σ,
      events.foldlM (fun console event => sink.raise? threshold (depth + 1) event console)
        (⟨state, true⟩ : Console σ) = some ⟨state, true⟩ := by
    intro events state
    induction events with
    | nil => rfl
    | cons event rest ih =>
      rw [List.foldlM_cons, raise?_of_isWriting]
      exact ih
  rw [deliver?]
  exact hfold _ _

theorem raise?_idle (sink : Sink σ) (threshold : Option Level) (depth : Nat)
    (event : Event) (state : σ) :
    sink.raise? threshold (depth + 3) event ⟨state, false⟩
      = some ⟨sink.shown threshold state event, false⟩ := by
  rw [raise?, shown]
  split
  · simp [deliver?_of_isWriting]
  · rfl

theorem deliver?_idle (sink : Sink σ) (threshold : Option Level) (depth : Nat)
    (text : List Utf16.Unit) (state : σ) :
    sink.deliver? threshold (depth + 4) text ⟨state, false⟩
      = some ⟨(sink.echoes (sink.receive text state)).foldl (sink.shown threshold)
          (sink.receive text state), false⟩ := by
  have hfold : ∀ events : List Event, ∀ state : σ,
      events.foldlM (fun console event => sink.raise? threshold (depth + 3) event console)
        (⟨state, false⟩ : Console σ)
          = some ⟨events.foldl (sink.shown threshold) state, false⟩ := by
    intro events
    induction events with
    | nil => intro state; rfl
    | cons event rest ih =>
      intro state
      rw [List.foldlM_cons, raise?_idle]
      exact ih _
  rw [deliver?]
  exact hfold _ _

/-- An idle console takes the lines of the events that are shown, and is idle again. -/
theorem raise_idle (sink : Sink σ) (threshold : Option Level) (event : Event) (state : σ) :
    sink.raise threshold event ⟨state, false⟩ = ⟨sink.shown threshold state event, false⟩ := by
  simp [raise, depth, raise?_idle sink threshold 1]

/-- An idle console takes a text and one line for each event that this gives rise to and that is
shown, and is idle again. -/
theorem deliver_idle (sink : Sink σ) (threshold : Option Level) (text : List Utf16.Unit)
    (state : σ) :
    sink.deliver threshold text ⟨state, false⟩
      = ⟨(sink.echoes (sink.receive text state)).foldl (sink.shown threshold)
          (sink.receive text state), false⟩ := by
  simp [deliver, depth, deliver?_idle sink threshold 0]

end Sink

end HostBridge
