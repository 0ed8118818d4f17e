import HostBridge.Proofs.Bridge.GateRuns

/-!
# Output on a ready console

The host's console routine may raise events of its own whenever it takes a text. After a text that
was printed these are shown like any others; those that it raises while the line of an event is
being written are dropped, so that no output goes on without end.
-/

namespace HostBridge

variable {σ : Type}

inductive Output where
  | print (text : List Utf16.Unit)
  | raise (event : Event)

def Event.lines (threshold : Level) (event : Event) : List (List Utf16.Unit) :=
  if event.level.passes threshold then [Utf16.encode event.line] else []

/-- The texts that the host's console gets, if its routine raises some events whenever it takes
one. -/
def Output.lines (threshold : Level) (echoes : List Event) : Output → List (List Utf16.Unit)
  | .print text => text :: echoes.flatMap (Event.lines threshold)
  | .raise event => event.lines threshold

namespace Bridge

variable {bridge : Bridge σ} {hook : Hook σ} {threshold : Level} {echoes : List Event}

def putOut (bridge : Bridge σ) : Output → Bridge σ
  | .print text => bridge.print text
  | .raise event => bridge.raise event

def putOutAll (bridge : Bridge σ) (outputs : List Output) : Bridge σ :=
  outputs.foldl putOut bridge

/-- The host takes some texts and does nothing about the events that this gives rise to. -/
def printed (hook : Hook σ) (texts : List (List Utf16.Unit)) (bridge : Bridge σ) : Bridge σ :=
  texts.foldl (fun bridge text => (bridge.ask hook (.print text)).2) bridge

/-- Whether the bridge shows events on the console of a bound hook that stays ready and raises the
same events whenever it takes a text. -/
structure Shows (hook : Hook σ) (threshold : Level) (echoes : List Event) (bridge : Bridge σ) :
    Prop where
  bound : bridge.gate.hook = some hook
  subscribed : bridge.subscriber = .console threshold
  idle : bridge.isWriting = false
  ready : ∀ texts, hook.isConsoleReady (bridge.printed hook texts).host = true
  echoes_eq : ∀ texts, hook.echoes (bridge.printed hook texts).host = echoes

theorem printed_append (texts texts' : List (List Utf16.Unit)) (bridge : Bridge σ) :
    bridge.printed hook (texts ++ texts') = (bridge.printed hook texts).printed hook texts' :=
  List.foldl_append

theorem steps_printed (texts : List (List Utf16.Unit)) (bridge : Bridge σ) :
    (bridge.printed hook texts).steps
      = bridge.steps ++ texts.map fun text => .call (.print text) := by
  induction texts generalizing bridge with
  | nil => exact (List.append_nil _).symm
  | cons text rest ih =>
      refine (ih _).trans ?_
      rw [List.map_cons]
      exact List.append_assoc _ [_] _

namespace Shows

theorem print (h : bridge.Shows hook threshold echoes) (text : List Utf16.Unit) :
    (bridge.ask hook (.print text)).2.Shows hook threshold echoes where
  bound := h.bound
  subscribed := h.subscribed
  idle := h.idle
  ready texts := h.ready (text :: texts)
  echoes_eq texts := h.echoes_eq (text :: texts)

theorem printed (h : bridge.Shows hook threshold echoes) (texts : List (List Utf16.Unit)) :
    (bridge.printed hook texts).Shows hook threshold echoes := by
  induction texts generalizing bridge with
  | nil => exact h
  | cons text rest ih => exact ih (h.print text)

theorem threshold_eq (h : bridge.Shows hook threshold echoes) :
    bridge.threshold = some threshold := by
  rw [Bridge.threshold, h.subscribed]

theorem receive_eq (h : bridge.Shows hook threshold echoes) (text : List Utf16.Unit) :
    sink.receive text bridge = bridge.printed hook [text] :=
  receive_of_bound h.bound text

theorem sink_echoes (h : bridge.Shows hook threshold echoes) : sink.echoes bridge = echoes := by
  simp only [sink, h.bound]
  exact h.echoes_eq []

theorem shows_eq (h : bridge.Shows hook threshold echoes) (event : Event) :
    sink.shows bridge.threshold event ⟨bridge, false⟩ = event.level.passes threshold := by
  have hready : sink.isReady bridge = true := by
    refine Eq.trans ?_ (h.ready [])
    simp only [sink, isConsoleReady, Gate.isConsoleReady, h.bound]
    rfl
  rw [Sink.shows, h.threshold_eq, hready, Bool.and_true, Bool.not_false, Bool.and_true]
  rfl

theorem shown_eq (h : bridge.Shows hook threshold echoes) (event : Event) :
    sink.shown (some threshold) bridge event = bridge.printed hook (event.lines threshold) := by
  rw [Sink.shown, ← h.threshold_eq, h.shows_eq, Event.lines]
  split
  · exact h.receive_eq _
  · rfl

theorem foldl_shown (h : bridge.Shows hook threshold echoes) (events : List Event) :
    events.foldl (sink.shown (some threshold)) bridge
      = bridge.printed hook (events.flatMap (Event.lines threshold)) := by
  induction events generalizing bridge with
  | nil => rfl
  | cons event rest ih =>
      rw [List.foldl_cons, h.shown_eq, ih (h.printed _), List.flatMap_cons, printed_append]

/-- What raising an event comes to, and how deep it goes. -/
theorem raise?_eq (h : bridge.Shows hook threshold echoes) (event : Event) (depth : Nat) :
    sink.raise? bridge.threshold (depth + 3) event ⟨bridge, bridge.isWriting⟩
      = some ⟨bridge.printed hook (event.lines threshold), false⟩ := by
  rw [h.idle, Sink.raise?_idle, h.threshold_eq, h.shown_eq]

/-- What printing a text comes to, and how deep it goes. -/
theorem deliver?_eq (h : bridge.Shows hook threshold echoes) (text : List Utf16.Unit)
    (depth : Nat) :
    sink.deliver? bridge.threshold (depth + 4) text ⟨bridge, bridge.isWriting⟩
      = some ⟨bridge.printed hook ((Output.print text).lines threshold echoes), false⟩ := by
  have htext := h.printed [text]
  rw [h.idle, Sink.deliver?_idle, h.threshold_eq, h.receive_eq, htext.sink_echoes,
    htext.foldl_shown, ← printed_append]
  rfl

theorem onConsole_eq (h : bridge.Shows hook threshold echoes)
    {work : Console (Bridge σ) → Console (Bridge σ)} {texts : List (List Utf16.Unit)}
    (hwork : work ⟨bridge, bridge.isWriting⟩ = ⟨bridge.printed hook texts, false⟩) :
    bridge.onConsole work = bridge.printed hook texts := by
  rw [onConsole, hwork]
  dsimp only
  rw [← (h.printed texts).idle]

theorem putOut_eq (h : bridge.Shows hook threshold echoes) (output : Output) :
    bridge.putOut output = bridge.printed hook (output.lines threshold echoes) := by
  have hgetD {console? : Option (Console (Bridge σ))} {console : Console (Bridge σ)}
      (h : console? = some console) : console?.getD ⟨bridge, bridge.isWriting⟩ = console :=
    congrArg (Option.getD · _) h
  cases output with
  | print text => exact h.onConsole_eq (hgetD (h.deliver?_eq text 0))
  | raise event => exact h.onConsole_eq (hgetD (h.raise?_eq event 1))

theorem putOutAll_eq (h : bridge.Shows hook threshold echoes) (outputs : List Output) :
    bridge.putOutAll outputs
      = bridge.printed hook (outputs.flatMap (·.lines threshold echoes)) := by
  induction outputs generalizing bridge with
  | nil => rfl
  | cons output rest ih =>
      rw [putOutAll, List.foldl_cons, h.putOut_eq, List.flatMap_cons, printed_append]
      exact ih (h.printed _)

end Shows

/-- However much is put out, the host gets each text that is printed with a line for every event
that this gives rise to and that passes the threshold, and the line of each event that is raised, if
it passes; and nothing else. Afterwards output goes the same way, and it never nests deeper than a
text, an event, the line of the event, and an event that is dropped. -/
theorem puts_out_lines (h : bridge.Shows hook threshold echoes) (outputs : List Output) :
    let texts := outputs.flatMap (·.lines threshold echoes)
    let final := bridge.putOutAll outputs
    final = bridge.printed hook texts ∧
      final.steps = bridge.steps ++ texts.map (fun text => .call (.print text)) ∧
      final.Shows hook threshold echoes ∧
      ∀ depth,
        (∀ event, sink.raise? final.threshold (depth + 3) event ⟨final, final.isWriting⟩
          = some ⟨final.raise event, false⟩) ∧
        ∀ text, sink.deliver? final.threshold (depth + 4) text ⟨final, final.isWriting⟩
          = some ⟨final.print text, false⟩ := by
  intro texts final
  have hfinal : final = bridge.printed hook texts := h.putOutAll_eq outputs
  have hshows : final.Shows hook threshold echoes := hfinal ▸ h.printed texts
  refine ⟨hfinal, ?_, hshows, fun depth => ⟨fun event => ?_, fun text => ?_⟩⟩
  · rw [hfinal, steps_printed]
  · rw [hshows.raise?_eq]
    exact congrArg (some <| Console.mk · false) (hshows.putOut_eq (.raise event)).symm
  · rw [hshows.deliver?_eq]
    exact congrArg (some <| Console.mk · false) (hshows.putOut_eq (.print text)).symm

end Bridge

def loudHost : ScriptedHost := { ScriptedHost.quiet with isConsoleReady := true, isEchoing := true }

namespace Bridge

theorem printed_loud (texts : List (List Utf16.Unit)) {bridge : Bridge ScriptedHost}
    (h : bridge.host = loudHost) : (bridge.printed (loudHost.hook .oak) texts).host = loudHost := by
  induction texts generalizing bridge with
  | nil => exact h
  | cons text rest ih => exact ih h

def chatter : List Output :=
  [.print [0x41], .raise ⟨.warn, "seen", []⟩, .raise ⟨.info, "unseen", []⟩, .print [0x42]]

theorem steps_of_chatter :
    let bridge := { fresh loudHost ⟨none, none, "", ⟨[]⟩⟩ with
      gate := Gate.bind (loudHost.hook .oak), subscriber := .console .warn }
    let texts := [[0x41], Utf16.encode ScriptedHost.echo.line, Utf16.encode "[WARN] seen\n", [0x42],
      Utf16.encode ScriptedHost.echo.line]
    bridge.Shows (loudHost.hook .oak) .warn [ScriptedHost.echo] ∧
      (bridge.putOutAll chatter).steps = texts.map fun text => .call (.print text) := by
  intro bridge texts
  have hshows : bridge.Shows (loudHost.hook .oak) .warn [ScriptedHost.echo] :=
    { bound := rfl
      subscribed := rfl
      idle := rfl
      ready texts := congrArg _ (printed_loud texts rfl)
      echoes_eq texts := congrArg _ (printed_loud texts rfl) }
  obtain ⟨-, hsteps, -⟩ := puts_out_lines hshows chatter
  exact ⟨hshows, hsteps⟩

end Bridge

end HostBridge
