import HostBridge.Host.Scripted
import HostBridge.Proofs.Bridge.Attempts

namespace HostBridge

variable {σ : Type}

/-- What may be asked of a gate. In between, the host may change on its own. -/
inductive GateCall (σ : Type) where
  | attempt (attempt : Attempt σ)
  | state
  | hook
  | isConsoleReady
  | print (text : List Utf16.Unit)
  | change (change : σ → σ)

inductive GateAnswer (σ : Type) where
  | attempt (outcome : Except Error Bool)
  | state (state : GateState)
  | hook (outcome : Except Error (Hook σ))
  | isConsoleReady (truth : Bool)
  | done

namespace Bridge

def handle (bridge : Bridge σ) : GateCall σ → GateAnswer σ × Bridge σ
  | .attempt attempt =>
    let (outcome, bridge) := bridge.attempt attempt
    (.attempt outcome, bridge)
  | .state => (.state bridge.gate.state, bridge)
  | .hook => (.hook bridge.gate.bound, bridge)
  | .isConsoleReady => (.isConsoleReady bridge.isConsoleReady, bridge)
  | .print text => (.done, bridge.print text)
  | .change change => (.done, { bridge with host := change bridge.host })

end Bridge

structure Entry (σ : Type) where
  before : Bridge σ
  call : GateCall σ
  answer : GateAnswer σ
  after : Bridge σ

def Bridge.history : Bridge σ → List (GateCall σ) → List (Entry σ)
  | _, [] => []
  | bridge, call :: rest =>
    ⟨bridge, call, (bridge.handle call).1, (bridge.handle call).2⟩
      :: (bridge.handle call).2.history rest

/-- Whether the state of a gate says whether it holds a hook. -/
def Gate.Settled (gate : Gate σ) : Prop :=
  gate.state = if gate.hook.isSome then .ready else .uninitialized

namespace Entry

/-- Whether an attempt on an unbound gate goes through its phases up to the first one that fails,
and binds its hook if none does. The steps that it adds say what each phase sees of the gate. -/
def Attempted (entry : Entry σ) (attempt : Attempt σ) : Prop :=
  match attempt.script.outcome with
  | .error error =>
    entry.answer = .attempt (.error error) ∧
      entry.after = { entry.before with steps := entry.before.steps ++ attempt.trace }
  | .ok () =>
    entry.answer = .attempt (.ok true) ∧
      entry.after = { entry.before with
        gate := Gate.bind attempt.factory.hook, steps := entry.before.steps ++ attempt.trace }

/-- Whether a call was answered and did what it should, given the hook that was bound before. -/
def Regular (entry : Entry σ) : Prop :=
  match entry.call, entry.before.gate.hook with
  | .attempt attempt, none => entry.Attempted attempt
  | .attempt _, some _ => entry.answer = .attempt (.ok false) ∧ entry.after = entry.before
  | .state, none => entry.answer = .state .uninitialized ∧ entry.after = entry.before
  | .state, some _ => entry.answer = .state .ready ∧ entry.after = entry.before
  | .hook, none => entry.answer = .hook (.error .notInitialized) ∧ entry.after = entry.before
  | .hook, some hook => entry.answer = .hook (.ok hook) ∧ entry.after = entry.before
  | .isConsoleReady, none => entry.answer = .isConsoleReady false ∧ entry.after = entry.before
  | .isConsoleReady, some hook =>
    entry.answer = .isConsoleReady (hook.isConsoleReady entry.before.host) ∧
      entry.after = entry.before
  | .print _, none => entry.answer = .done ∧ entry.after = entry.before
  | .print text, some _ =>
    entry.answer = .done ∧ entry.after.gate = entry.before.gate ∧
      entry.before.steps ++ [.call (.print text)] <+: entry.after.steps
  | .change change, _ =>
    entry.answer = .done ∧ entry.after = { entry.before with host := change entry.before.host }

end Entry

variable {bridge : Bridge σ} {entry : Entry σ} {hook : Hook σ}

theorem Gate.Settled.eq_closed {gate : Gate σ} (hsettled : gate.Settled) (hhook : gate.hook = none) :
    gate = Gate.closed := by
  obtain ⟨state, hook⟩ := gate
  subst hhook
  exact congrArg (Gate.mk · none) hsettled

theorem Gate.Settled.state_of_bound {gate : Gate σ} (hsettled : gate.Settled)
    (hhook : gate.hook = some hook) : gate.state = .ready := by
  rw [Settled, hhook] at hsettled
  exact hsettled

theorem Bridge.steps_enter (bridge : Bridge σ) (phase : Phase) :
    (bridge.enter phase).steps =
      bridge.steps ++ [.phase phase ⟨bridge.gate.state, bridge.gate.bound.isOk⟩] := by
  have hbound : bridge.gate.hook.isSome = bridge.gate.bound.isOk := by
    rw [Gate.bound]
    cases bridge.gate.hook with
    | none => rfl
    | some hook => rfl
  rw [enter, Gate.view, hbound]

theorem attempted_handle (hgate : bridge.gate = Gate.closed) (attempt : Attempt σ) :
    Entry.Attempted ⟨bridge, .attempt attempt, (bridge.handle (.attempt attempt)).1,
      (bridge.handle (.attempt attempt)).2⟩ attempt := by
  rw [Entry.Attempted, Bridge.handle]
  cases houtcome : attempt.script.outcome with
  | error error =>
      rw [Bridge.attempt_of_error hgate houtcome]
      exact ⟨rfl, rfl⟩
  | ok =>
      rw [Bridge.attempt_of_ok hgate houtcome]
      exact ⟨rfl, rfl⟩

theorem regular_handle (hsettled : bridge.gate.Settled) (call : GateCall σ) :
    Entry.Regular ⟨bridge, call, (bridge.handle call).1, (bridge.handle call).2⟩ := by
  rw [Entry.Regular]
  cases hhook : bridge.gate.hook with
  | none =>
      have hgate := hsettled.eq_closed hhook
      cases call with
      | attempt attempt => exact attempted_handle hgate attempt
      | state =>
          have hstate : bridge.gate.state = .uninitialized := by rw [hgate]; rfl
          exact ⟨congrArg GateAnswer.state hstate, rfl⟩
      | hook =>
          have hbound : bridge.gate.bound = .error .notInitialized := by rw [hgate]; rfl
          exact ⟨congrArg GateAnswer.hook hbound, rfl⟩
      | isConsoleReady =>
          exact ⟨congrArg GateAnswer.isConsoleReady (Bridge.isConsoleReady_of_unbound hhook), rfl⟩
      | print text => exact ⟨rfl, Bridge.print_of_unbound hhook text⟩
      | change change => exact ⟨rfl, rfl⟩
  | some hook =>
      cases call with
      | attempt attempt =>
          rw [Bridge.handle, Bridge.attempt_of_bound hhook]
          exact ⟨rfl, rfl⟩
      | state => exact ⟨congrArg GateAnswer.state (hsettled.state_of_bound hhook), rfl⟩
      | hook =>
          have hbound : bridge.gate.bound = .ok hook := by rw [Gate.bound, hhook]
          exact ⟨congrArg GateAnswer.hook hbound, rfl⟩
      | isConsoleReady =>
          have hready : bridge.isConsoleReady = hook.isConsoleReady bridge.host := by
            rw [Bridge.isConsoleReady, Gate.isConsoleReady, hhook]
            rfl
          exact ⟨congrArg GateAnswer.isConsoleReady hready, rfl⟩
      | print text => exact ⟨rfl, bridge.gate_print text, Bridge.steps_print hhook text⟩
      | change change => exact ⟨rfl, rfl⟩

theorem gate_handle (hsettled : bridge.gate.Settled) (call : GateCall σ) :
    (bridge.handle call).2.gate = bridge.gate ∨
      bridge.gate.hook = none ∧ ∃ hook, (bridge.handle call).2.gate = Gate.bind hook := by
  cases call with
  | state | hook | isConsoleReady | change => exact .inl rfl
  | print text => exact .inl (bridge.gate_print text)
  | attempt attempt =>
      cases hhook : bridge.gate.hook with
      | some hook =>
          have hattempt := Bridge.attempt_of_bound hhook attempt
          exact .inl (congrArg (fun outcome => outcome.2.gate) hattempt)
      | none =>
          have hgate := hsettled.eq_closed hhook
          cases houtcome : attempt.script.outcome with
          | error error =>
              have hattempt := Bridge.attempt_of_error hgate houtcome
              exact .inl (congrArg (fun outcome => outcome.2.gate) hattempt)
          | ok =>
              have hattempt := Bridge.attempt_of_ok hgate houtcome
              refine .inr ⟨rfl, attempt.factory.hook, ?_⟩
              exact congrArg (fun outcome => outcome.2.gate) hattempt

theorem settled_handle (hsettled : bridge.gate.Settled) (call : GateCall σ) :
    (bridge.handle call).2.gate.Settled := by
  rcases gate_handle hsettled call with hsame | ⟨-, hook, hbind⟩
  · rw [hsame]
    exact hsettled
  · rw [hbind]
    rfl

theorem bound_handle (hsettled : bridge.gate.Settled) (hhook : bridge.gate.hook = some hook)
    (call : GateCall σ) : (bridge.handle call).2.gate.hook = some hook := by
  rcases gate_handle hsettled call with hsame | ⟨hnone, -⟩
  · rw [hsame, hhook]
  · rw [hhook] at hnone
    cases hnone

theorem history_regular (hsettled : bridge.gate.Settled) (calls : List (GateCall σ)) :
    ∀ entry ∈ bridge.history calls,
      entry.before.gate.Settled ∧ entry.after.gate.Settled ∧ entry.Regular := by
  induction calls generalizing bridge with
  | nil => exact List.forall_mem_nil _
  | cons call rest ih =>
      have hafter := settled_handle hsettled call
      rw [Bridge.history, List.forall_mem_cons]
      exact ⟨⟨hsettled, hafter, regular_handle hsettled call⟩, ih hafter⟩

theorem history_bound (hsettled : bridge.gate.Settled) (hhook : bridge.gate.hook = some hook)
    (calls : List (GateCall σ)) :
    ∀ entry ∈ bridge.history calls,
      entry.before.gate.hook = some hook ∧ entry.after.gate.hook = some hook := by
  induction calls generalizing bridge with
  | nil => exact List.forall_mem_nil _
  | cons call rest ih =>
      have hafter := bound_handle hsettled hhook call
      rw [Bridge.history, List.forall_mem_cons]
      exact ⟨⟨hhook, hafter⟩, ih (settled_handle hsettled call) hafter⟩

/-- Only an attempt that binds its hook is answered with success. -/
theorem Entry.Regular.bound_of_answer (hregular : entry.Regular)
    (hanswer : entry.answer = .attempt (.ok true)) :
    entry.before.gate.hook = none ∧ ∃ hook, entry.after.gate.hook = some hook := by
  obtain ⟨before, call, answer, after⟩ := entry
  rw [Entry.Regular] at hregular
  dsimp only at hregular hanswer
  cases hhook : before.gate.hook with
  | some hook =>
      rw [hhook] at hregular
      have hfalse : False := by
        cases call with
        | change | attempt | state | hook | isConsoleReady | print =>
            cases hanswer.symm.trans hregular.1
      exact hfalse.elim
  | none =>
      rw [hhook] at hregular
      refine ⟨rfl, ?_⟩
      cases call with
      | change | state | hook | isConsoleReady | print => cases hanswer.symm.trans hregular.1
      | attempt attempt =>
          change Entry.Attempted _ _ at hregular
          rw [Attempted] at hregular
          cases houtcome : attempt.script.outcome with
          | error error =>
              rw [houtcome] at hregular
              cases hanswer.symm.trans hregular.1
          | ok =>
              rw [houtcome] at hregular
              exact ⟨attempt.factory.hook, congrArg (·.gate.hook) hregular.2⟩

theorem Entry.Regular.attempt_of_bound (hregular : entry.Regular) {attempt : Attempt σ}
    (hcall : entry.call = .attempt attempt) (hhook : entry.before.gate.hook = some hook) :
    entry.answer = .attempt (.ok false) ∧ entry.after = entry.before := by
  rw [Entry.Regular, hcall, hhook] at hregular
  exact hregular

/-- In a run on a gate without a hook, every call is regular, and the gate is settled before and
after it. A phase sees of the gate what would be answered to it if it asked for the state and the
hook. At most one attempt is answered with success. From then on its hook is bound, and attempts
change nothing. -/
theorem history_orderly (hsettled : bridge.gate.Settled) (calls : List (GateCall σ)) :
    (∀ entry ∈ bridge.history calls,
      entry.before.gate.Settled ∧ entry.after.gate.Settled ∧ entry.Regular) ∧
    (∀ (now : Bridge σ) phase, (now.enter phase).steps =
      now.steps ++ [.phase phase ⟨now.gate.state, now.gate.bound.isOk⟩]) ∧
    (bridge.history calls).Pairwise fun earlier later =>
      earlier.answer = .attempt (.ok true) →
        later.answer ≠ .attempt (.ok true) ∧
        (∃ hook, earlier.after.gate.hook = some hook ∧ later.before.gate.hook = some hook ∧
          later.after.gate.hook = some hook) ∧
        ∀ attempt, later.call = .attempt attempt →
          later.answer = .attempt (.ok false) ∧ later.after = later.before := by
  refine ⟨history_regular hsettled calls, Bridge.steps_enter, ?_⟩
  induction calls generalizing bridge with
  | nil => exact List.Pairwise.nil
  | cons call rest ih =>
      have hafter := settled_handle hsettled call
      rw [Bridge.history, List.pairwise_cons]
      refine ⟨fun later hlater hanswer => ?_, ih hafter⟩
      obtain ⟨-, hook, hhook⟩ := (regular_handle hsettled call).bound_of_answer hanswer
      obtain ⟨hbefore, hlaterAfter⟩ := history_bound hafter hhook rest later hlater
      obtain ⟨-, -, hregular⟩ := history_regular hafter rest later hlater
      refine ⟨fun hsecond => ?_, ⟨hook, hhook, hbefore, hlaterAfter⟩, fun attempt hcall => ?_⟩
      · obtain ⟨hnone, -⟩ := hregular.bound_of_answer hsecond
        rw [hbefore] at hnone
        cases hnone
      · exact hregular.attempt_of_bound hcall hbefore

def retry : List (GateCall ScriptedHost) :=
  [.attempt ⟨.ok (), ⟨some (.ok ()), ScriptedHost.quiet.hook .willow, .ok ()⟩⟩,
    .attempt ⟨.ok (), ⟨none, ScriptedHost.quiet.hook .oak, .ok ()⟩⟩,
    .attempt ⟨.ok (), ⟨none, ScriptedHost.quiet.hook .oak, .ok ()⟩⟩]

theorem history_retry :
    let bridge := Bridge.fresh ScriptedHost.quiet ⟨none, none, "", ⟨[]⟩⟩
    let early : GateView := ⟨.initializing, false⟩
    bridge.gate.Settled ∧
      (bridge.history retry).map Entry.answer
        = [.attempt (.error (.layoutMismatch .willow .oak)), .attempt (.ok true),
          .attempt (.ok false)] ∧
      (bridge.history retry).getLast?.map (·.after.steps)
        = some [.phase .bootstrap early, .phase .substrate early, .phase .create early,
          .phase .bootstrap early, .phase .create early, .phase .install early,
          .phase .announce ⟨.ready, true⟩] ∧
      ∀ entry ∈ bridge.history retry,
        entry.before.gate.Settled ∧ entry.after.gate.Settled ∧ entry.Regular := by
  intro bridge early
  have hsettled : bridge.gate.Settled := rfl
  exact ⟨hsettled, rfl, rfl, (history_orderly hsettled retry).1⟩

end HostBridge
