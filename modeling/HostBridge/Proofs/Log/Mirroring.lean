import HostBridge.Log.Recorder
import HostBridge.Proofs.Log.Lines
import HostBridge.Proofs.Text.Surrogates

namespace HostBridge

/-- What happens to a console: it gets ready or stops being so, or an event is raised. -/
inductive ConsoleStep where
  | ready (truth : Bool)
  | raise (event : Event)

namespace Recorder

/-- A recorder that raises events when it receives a text, whatever it has received so far. -/
def echoing (echoes : Recorder → List Event) : Sink Recorder :=
  { Recorder.sink [] with echoes := echoes }

variable (sink : Sink Recorder) (threshold : Level)

def step (console : Console Recorder) : ConsoleStep → Console Recorder
  | .ready truth => { console with state := { console.state with isReady := truth } }
  | .raise event => sink.raise (some threshold) event console

def run (console : Console Recorder) (steps : List ConsoleStep) : Console Recorder :=
  steps.foldl (step sink threshold) console

end Recorder

namespace Level

/-- Whether a level is at least as severe as another one. -/
def AtLeast (level other : Level) : Prop :=
  (words.map Prod.fst).idxOf level ≤ (words.map Prod.fst).idxOf other

instance (level other : Level) : Decidable (level.AtLeast other) :=
  inferInstanceAs (Decidable (_ ≤ _))

theorem AtLeast.trans {level strict lax : Level} (h : level.AtLeast strict)
    (hlax : strict.AtLeast lax) : level.AtLeast lax :=
  Nat.le_trans h hlax

theorem passes_iff {level threshold : Level} :
    level.passes threshold = true ↔ level.AtLeast threshold := by
  cases level <;> cases threshold <;> decide

end Level

/-- The events at or above the threshold that are raised while the console is ready. -/
def mirrored (threshold : Level) : Bool → List ConsoleStep → List Event
  | _, [] => []
  | _, .ready truth :: rest => mirrored threshold truth rest
  | isReady, .raise event :: rest =>
    if isReady = true ∧ event.level.AtLeast threshold then event :: mirrored threshold isReady rest
    else mirrored threshold isReady rest

theorem mirrored_sublist {strict lax : Level} (h : strict.AtLeast lax) (isReady : Bool)
    (steps : List ConsoleStep) :
    (mirrored strict isReady steps).Sublist (mirrored lax isReady steps) := by
  induction steps generalizing isReady with
  | nil => exact List.Sublist.refl []
  | cons step rest ih =>
      cases step with
      | ready truth => exact ih truth
      | raise event =>
          rw [mirrored, mirrored]
          by_cases hshown : isReady = true ∧ event.level.AtLeast strict
          · rw [if_pos hshown, if_pos ⟨hshown.1, hshown.2.trans h⟩]
            exact (ih isReady).cons_cons event
          · rw [if_neg hshown]
            split
            · exact (ih isReady).cons event
            · exact ih isReady

namespace Recorder

variable (echoes : Recorder → List Event) (threshold : Level)

theorem shows_iff {event : Event} {recorder : Recorder} :
    (echoing echoes).shows (some threshold) event ⟨recorder, false⟩ = true ↔
      recorder.isReady = true ∧ event.level.AtLeast threshold := by
  simp [Sink.shows, echoing, sink, Level.passes_iff, and_comm]

theorem raise_of_shown {event : Event} {recorder : Recorder}
    (h : recorder.isReady = true ∧ event.level.AtLeast threshold) :
    (echoing echoes).raise (some threshold) event ⟨recorder, false⟩ =
      ⟨{ recorder with lines := recorder.lines ++ [Utf16.encode event.line] }, false⟩ := by
  rw [Sink.raise_idle, Sink.shown, if_pos ((shows_iff echoes threshold).mpr h)]
  rfl

theorem raise_of_not_shown {event : Event} {recorder : Recorder}
    (h : ¬(recorder.isReady = true ∧ event.level.AtLeast threshold)) :
    (echoing echoes).raise (some threshold) event ⟨recorder, false⟩ = ⟨recorder, false⟩ := by
  rw [Sink.raise_idle, Sink.shown, if_neg (mt (shows_iff echoes threshold).mp h)]

theorem run_echoing (recorder : Recorder) (steps : List ConsoleStep) :
    (run (echoing echoes) threshold ⟨recorder, false⟩ steps).isWriting = false ∧
      (run (echoing echoes) threshold ⟨recorder, false⟩ steps).state.lines =
        recorder.lines ++ (mirrored threshold recorder.isReady steps).map fun event =>
          Utf16.encode event.line := by
  induction steps generalizing recorder with
  | nil => exact ⟨rfl, (List.append_nil _).symm⟩
  | cons first rest ih =>
      cases first with
      | ready truth => exact ih { recorder with isReady := truth }
      | raise event =>
          rw [run, List.foldl_cons, step, ← run, mirrored]
          by_cases hshown : recorder.isReady = true ∧ event.level.AtLeast threshold
          · rw [raise_of_shown echoes threshold hshown, if_pos hshown, List.map_cons]
            obtain ⟨hidle, hlines⟩ :=
              ih { recorder with lines := recorder.lines ++ [Utf16.encode event.line] }
            exact ⟨hidle, hlines.trans (List.append_assoc ..)⟩
          · rw [raise_of_not_shown echoes threshold hshown, if_neg hshown]
            exact ih recorder

/-- A recorder gets one line for each event at or above the threshold that is raised while it is
ready, in their order, and nothing else, whatever events it raises itself when it gets one. The line
says what `LineFor` says of the fields that are recorded; its units stand for its characters, and the
text can be read back from them. A stricter threshold leaves out some of the lines and adds none. -/
theorem lines_of_run (recorder : Recorder) (steps : List ConsoleStep) :
    let lines := (run (echoing echoes) threshold ⟨recorder, false⟩ steps).state.lines
    let events := mirrored threshold recorder.isReady steps
    lines = recorder.lines ++ events.map (fun event => Utf16.encode event.line) ∧
      (∀ event ∈ events, Utf16.decode? (Utf16.encode event.line) = some event.line ∧
        (Utf16.places (Utf16.encode event.line)).filterMap Utf16.Place.codePoint?
          = event.line.toList.map Char.toNat ∧
        ∀ place ∈ Utf16.places (Utf16.encode event.line), ¬place.IsUnpaired) ∧
      (∀ level fields text, LineFor level fields text ↔ text = (Event.ofRecord level fields).line) ∧
      (∀ event : Event, (∀ field ∈ event.fields, field.1 ≠ "message") →
        Event.ofRecord event.level (("message", .plain event.message) :: event.fields) = event) ∧
      lines = (run (sink []) threshold ⟨recorder, false⟩ steps).state.lines ∧
      ∀ lax : Level, threshold.AtLeast lax →
        lines.Sublist (run (echoing echoes) lax ⟨recorder, false⟩ steps).state.lines := by
  intro lines events
  obtain ⟨-, hlines⟩ := run_echoing echoes threshold recorder steps
  obtain ⟨-, hquiet⟩ := run_echoing (fun _ => []) threshold recorder steps
  refine ⟨hlines, ?_, fun _ _ _ => lineFor_iff, fun _ => Event.ofRecord_eq, ?_, ?_⟩
  · intro event _
    exact ⟨Utf16.decode?_encode event.line, Utf16.places_encode event.line⟩
  · exact hlines.trans hquiet.symm
  · intro lax hlax
    obtain ⟨-, hlinesLax⟩ := run_echoing echoes lax recorder steps
    have hevents := mirrored_sublist hlax recorder.isReady steps
    rw [hlinesLax]
    change List.Sublist (run (echoing echoes) threshold ⟨recorder, false⟩ steps).state.lines _
    rw [hlines]
    exact (List.Sublist.refl recorder.lines).append (hevents.map _)

def loud : Event :=
  ⟨.warn, "loud", [("index", .number (-3)), ("path", .plain "a b"), ("name", .quoted "say \"𝄞\"\n"),
    ("found", .flag true)]⟩

/-- A console that raises an error whenever it gets a line shows one line of four events. -/
theorem lines_of_noisy_run :
    let echoes : Recorder → List Event := fun _ => [⟨.error, "again", []⟩]
    let steps : List ConsoleStep := [.raise ⟨.error, "too early", []⟩, .ready true,
      .raise ⟨.info, "quiet", []⟩, .raise loud, .ready false, .raise ⟨.warn, "too late", []⟩]
    let lines (threshold : Level) :=
      (run (echoing echoes) threshold ⟨fresh, false⟩ steps).state.lines
    let text := "[WARN] loud index=-3 path=a b name=\"say \\\"𝄞\\\"\\n\" found=true\n"
    Level.AtLeast .error .warn ∧ lines .warn = [Utf16.encode text] ∧
      Utf16.decode? (Utf16.encode text) = some text ∧
      (∀ field ∈ loud.fields, field.1 ≠ "message") ∧
      LineFor .warn (("message", .plain "loud") :: loud.fields) text ∧
      (lines .error).Sublist (lines .warn) := by
  intro echoes steps lines text
  obtain ⟨hlines, hread, hline, hrecord, -⟩ := lines_of_run echoes .warn fresh steps
  obtain ⟨-, -, -, -, -, hsublist⟩ := lines_of_run echoes .error fresh steps
  have htext : loud.line = text := by decide +kernel
  have hfields : ∀ field ∈ loud.fields, field.1 ≠ "message" := by decide
  obtain ⟨hdecoded, -⟩ := hread loud (List.mem_singleton.mpr rfl)
  have hatLeast : Level.AtLeast .error .warn := by decide
  refine ⟨hatLeast, ?_, ?_, hfields, ?_, hsublist .warn hatLeast⟩
  · rw [← htext]
    exact hlines
  · rw [← htext]
    exact hdecoded
  · rw [hline, ← htext]
    exact congrArg Event.line (hrecord loud hfields).symm

end Recorder

end HostBridge
