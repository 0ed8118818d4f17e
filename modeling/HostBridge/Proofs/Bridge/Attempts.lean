import HostBridge.Bridge.Startup
import HostBridge.Proofs.Bridge.Console

namespace HostBridge

variable {σ : Type}

/-- Phases in their order, with the outcome of each. -/
abbrev Script := List (Phase × Except Error Unit)

namespace Script

def reached : Script → List Phase
  | [] => []
  | (phase, .ok ()) :: rest => phase :: reached rest
  | (phase, .error _) :: _ => [phase]

def outcome : Script → Except Error Unit
  | [] => .ok ()
  | (_, .ok ()) :: rest => outcome rest
  | (_, .error error) :: _ => .error error

theorem reached_append (script script' : Script) :
    reached (script ++ script') =
      match outcome script with
      | .ok () => reached script ++ reached script'
      | .error _ => reached script := by
  induction script with
  | nil => rfl
  | cons first rest ih =>
      obtain ⟨phase, result⟩ := first
      cases result with
      | error error => rfl
      | ok =>
          rw [List.cons_append, reached, ih, outcome, reached]
          cases outcome rest with
          | error error => rfl
          | ok => rfl

theorem outcome_append (script script' : Script) :
    outcome (script ++ script') =
      match outcome script with
      | .ok () => outcome script'
      | .error error => .error error := by
  induction script with
  | nil => rfl
  | cons first rest ih =>
      obtain ⟨phase, result⟩ := first
      cases result with
      | error error => rfl
      | ok => exact ih

theorem reached_prefix (script : Script) : reached script <+: script.map Prod.fst := by
  induction script with
  | nil => exact List.prefix_rfl
  | cons first rest ih =>
      obtain ⟨phase, result⟩ := first
      cases result with
      | error error => exact List.cons_prefix_cons.mpr ⟨rfl, List.nil_prefix⟩
      | ok => exact List.cons_prefix_cons.mpr ⟨rfl, ih⟩

end Script

/-- An attempt to bind a hook: how the preparation of the process ends, and how the factory
behaves. -/
structure Attempt (σ : Type) where
  bootstrap : Except Error Unit
  factory : Factory σ

namespace Attempt

/-- A hook for another layout family is refused once it is created. -/
def created (attempt : Attempt σ) : Except Error Unit :=
  if attempt.factory.hook.flavour = Flavour.active then .ok ()
  else .error (.layoutMismatch attempt.factory.hook.flavour Flavour.active)

def preparations (attempt : Attempt σ) : Script :=
  [(.bootstrap, attempt.bootstrap)] ++
    ((attempt.factory.substrate.toList.map fun result => (.substrate, result)) ++
      [(.create, attempt.created), (.install, attempt.factory.install)])

def script (attempt : Attempt σ) : Script :=
  attempt.preparations ++ [(.announce, .ok ())]

theorem outcome_script (attempt : Attempt σ) :
    attempt.script.outcome = attempt.preparations.outcome := by
  rw [script, Script.outcome_append]
  cases attempt.preparations.outcome with
  | error error => rfl
  | ok => rfl

/-- What a phase sees of the gate: only the last one sees it ready and can reach the hook. -/
def seen : Phase → GateView
  | .announce => ⟨.ready, true⟩
  | .bootstrap | .substrate | .create | .install => ⟨.initializing, false⟩

def trace (attempt : Attempt σ) : List HostStep :=
  attempt.script.reached.map fun phase => .phase phase (seen phase)

end Attempt

namespace Bridge

def attempt (attempt : Attempt σ) (bridge : Bridge σ) : Except Error Bool × Bridge σ :=
  bridge.start (scriptedPreparation attempt.bootstrap) attempt.factory

def enterAll (phases : List Phase) (bridge : Bridge σ) : Bridge σ :=
  phases.foldl enter bridge

theorem enterAll_eq (phases : List Phase) (bridge : Bridge σ) :
    bridge.enterAll phases = { bridge with
      steps := bridge.steps ++ phases.map fun phase => .phase phase bridge.gate.view } := by
  induction phases generalizing bridge with
  | nil => rw [List.map_nil, List.append_nil]; rfl
  | cons phase rest ih =>
      have hnext := ih (bridge.enter phase)
      rw [enter, List.append_assoc] at hnext
      exact hnext

theorem gate_enterAll (phases : List Phase) (bridge : Bridge σ) :
    (bridge.enterAll phases).gate = bridge.gate := by
  rw [enterAll_eq]

/-- Whether work on an unbound bridge goes through a script and does nothing else. -/
def Performs (work : Bridge σ → Except Error Unit × Bridge σ) (script : Script) : Prop :=
  ∀ bridge : Bridge σ, bridge.gate.hook = none →
    work bridge = (script.outcome, bridge.enterAll script.reached)

theorem performs_scriptedPreparation (result : Except Error Unit) :
    Performs (σ := σ) (scriptedPreparation result) [(.bootstrap, result)] := by
  intro bridge _
  cases result with
  | error error => rfl
  | ok => rfl

theorem performs_prepareSubstrate (factory : Factory σ) :
    Performs (prepareSubstrate factory)
      (factory.substrate.toList.map fun result => (Phase.substrate, result)) := by
  intro bridge _
  rw [prepareSubstrate]
  cases factory.substrate with
  | none => rfl
  | some result =>
      cases result with
      | error error => rfl
      | ok => rfl

theorem performs_installHook (attempt : Attempt σ) :
    Performs (installHook attempt.factory)
      [(.create, attempt.created), (.install, attempt.factory.install)] := by
  intro bridge hhook
  rw [installHook, Attempt.created]
  split
  · cases hinstall : attempt.factory.install with
    | error error => rfl
    | ok =>
        -- The hook is installed but not bound, so the event that says so does not reach the host.
        have hunbound : ((bridge.enter .create).enter .install).gate.hook = none := hhook
        have hlogged := raise_of_unbound hunbound (hookInstalled attempt.factory.hook.flavour)
        simp only [hlogged]
        rfl
  · rfl

theorem performs_andThen {first second : Bridge σ → Except Error Unit × Bridge σ}
    {script script' : Script} (hfirst : Performs first script) (hsecond : Performs second script') :
    Performs (andThen first second) (script ++ script') := by
  intro bridge hhook
  rw [andThen, hfirst bridge hhook, Script.outcome_append, Script.reached_append]
  cases script.outcome with
  | error error => rfl
  | ok =>
      have hunbound : (bridge.enterAll script.reached).gate.hook = none := by
        rw [gate_enterAll, hhook]
      have hrest := hsecond (bridge.enterAll script.reached) hunbound
      rw [enterAll, enterAll, ← List.foldl_append, ← enterAll] at hrest
      exact hrest

theorem performs_build (attempt : Attempt σ) :
    Performs (build (scriptedPreparation attempt.bootstrap) attempt.factory)
      attempt.preparations :=
  performs_andThen (performs_scriptedPreparation attempt.bootstrap)
    (performs_andThen (performs_prepareSubstrate attempt.factory) (performs_installHook attempt))

theorem seen_of_mem (attempt : Attempt σ) {phase : Phase} (h : phase ∈ attempt.preparations.reached) :
    Attempt.seen phase = ⟨.initializing, false⟩ := by
  have hmem : phase ∈ attempt.preparations.map Prod.fst := (Script.reached_prefix _).subset h
  simp only [Attempt.preparations, List.map_append, List.map_map, List.mem_append, List.mem_map,
    List.map_cons, List.map_nil, List.mem_cons, List.not_mem_nil, or_false, Function.comp] at hmem
  obtain rfl | ⟨-, -, rfl⟩ | rfl | rfl := hmem <;> rfl

theorem preparations_trace (attempt : Attempt σ) :
    attempt.preparations.reached.map (fun phase => HostStep.phase phase ⟨.initializing, false⟩)
      = attempt.preparations.reached.map fun phase => .phase phase (Attempt.seen phase) :=
  List.map_congr_left fun phase hphase => by rw [seen_of_mem attempt hphase]

def prepared (attempt : Attempt σ) (bridge : Bridge σ) : Bridge σ :=
  (bridge.setState .initializing).enterAll attempt.preparations.reached

theorem prepared_eq {bridge : Bridge σ} (hhook : bridge.gate.hook = none) (attempt : Attempt σ) :
    bridge.prepared attempt = { bridge.setState .initializing with
      steps := bridge.steps ++ attempt.preparations.reached.map fun phase =>
        .phase phase (Attempt.seen phase) } := by
  have hview : (bridge.setState .initializing).gate.view = ⟨.initializing, false⟩ := by
    rw [setState, Gate.view, hhook]
    rfl
  rw [prepared, enterAll_eq, hview, preparations_trace]
  rfl

theorem build_of_unbound {bridge : Bridge σ} (hhook : bridge.gate.hook = none)
    (attempt : Attempt σ) :
    build (scriptedPreparation attempt.bootstrap) attempt.factory (bridge.setState .initializing)
      = (attempt.preparations.outcome, bridge.prepared attempt) :=
  performs_build attempt (bridge.setState .initializing) hhook

theorem attempt_of_error {bridge : Bridge σ} (hgate : bridge.gate = Gate.closed)
    {attempt : Attempt σ} {error : Error} (h : attempt.script.outcome = .error error) :
    bridge.attempt attempt
      = (.error error, { bridge with steps := bridge.steps ++ attempt.trace }) := by
  have hhook : bridge.gate.hook = none := by rw [hgate]; rfl
  have houtcome : attempt.preparations.outcome = .error error :=
    attempt.outcome_script.symm.trans h
  have hreached : attempt.script.reached = attempt.preparations.reached := by
    rw [Attempt.script, Script.reached_append, houtcome]
  have hunbound : ((bridge.prepared attempt).setState .uninitialized).gate.hook = none := by
    rw [prepared_eq hhook]
    exact hhook
  rw [Bridge.attempt, start, hhook, build_of_unbound hhook, houtcome]
  simp only [raise_of_unbound hunbound]
  rw [prepared_eq hhook, Attempt.trace, hreached, setState, setState, hgate]
  rfl

theorem attempt_of_ok {bridge : Bridge σ} (hgate : bridge.gate = Gate.closed)
    {attempt : Attempt σ} (h : attempt.script.outcome = .ok ()) :
    bridge.attempt attempt = (.ok true, { bridge with
      gate := Gate.bind attempt.factory.hook, steps := bridge.steps ++ attempt.trace }) := by
  have hhook : bridge.gate.hook = none := by rw [hgate]; rfl
  have houtcome : attempt.preparations.outcome = .ok () := attempt.outcome_script.symm.trans h
  have hreached : attempt.script.reached = attempt.preparations.reached ++ [.announce] := by
    rw [Attempt.script, Script.reached_append, houtcome]
    rfl
  rw [Bridge.attempt, start, hhook, build_of_unbound hhook, houtcome, prepared_eq hhook,
    Attempt.trace, hreached, List.map_append, ← List.append_assoc]
  rfl

theorem attempt_of_bound {bridge : Bridge σ} {hook : Hook σ} (hhook : bridge.gate.hook = some hook)
    (attempt : Attempt σ) : bridge.attempt attempt = (.ok false, bridge) := by
  rw [Bridge.attempt, start, hhook]

end Bridge

end HostBridge
