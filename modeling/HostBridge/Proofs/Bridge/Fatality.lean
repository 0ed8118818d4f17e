import HostBridge.Proofs.Bridge.Startups
import HostBridge.Proofs.Settings.Failing

/-!
# Fatal failures

An attempt to bind a hook fails in one of its phases. If it is not the factory that fails, it is the
preparation of the process, which loads the configuration, or the check of the hook's layout family.
Such a failure is fatal, unless a configuration file is there and cannot be read: the attempt stops
there all the same, with an error that is not fatal.
-/

namespace HostBridge

variable {σ : Type}

namespace Script

/-- The first phase that fails, with its error. -/
def failure? : Script → Option (Phase × Error)
  | [] => none
  | (_, .ok ()) :: rest => failure? rest
  | (phase, .error error) :: _ => some (phase, error)

theorem outcome_eq_error_iff {script : Script} {error : Error} :
    script.outcome = .error error ↔ ∃ phase, script.failure? = some (phase, error) := by
  induction script with
  | nil => exact ⟨nofun, fun ⟨_, h⟩ => nomatch h⟩
  | cons first rest ih =>
      obtain ⟨phase, result⟩ := first
      cases result with
      | ok => exact ih
      | error fault =>
          constructor
          · intro h
            cases h
            exact ⟨phase, rfl⟩
          · rintro ⟨_, h⟩
            cases h
            rfl

theorem mem_of_failure? {script : Script} {phase : Phase} {error : Error}
    (h : script.failure? = some (phase, error)) : (phase, .error error) ∈ script := by
  induction script with
  | nil => cases h
  | cons first rest ih =>
      obtain ⟨phase', result⟩ := first
      cases result with
      | ok => exact List.mem_cons_of_mem _ (ih h)
      | error fault =>
          cases h
          exact List.mem_cons_self

end Script

namespace Attempt

variable {attempt : Attempt σ} {error : Error}

theorem failure?_of_bootstrap (h : attempt.bootstrap = .error error) :
    attempt.script.failure? = some (.bootstrap, error) := by
  rw [script, preparations, h]
  rfl

theorem mem_script_iff {phase : Phase} {result : Except Error Unit} :
    (phase, result) ∈ attempt.script ↔
      phase = .bootstrap ∧ result = attempt.bootstrap ∨
      attempt.factory.substrate = some result ∧ .substrate = phase ∨
      phase = .create ∧ result = attempt.created ∨
      phase = .install ∧ result = attempt.factory.install ∨
      phase = .announce ∧ result = .ok () := by
  simp only [script, preparations, List.mem_append, List.mem_map, Option.mem_toList, List.mem_cons,
    List.not_mem_nil, or_false, Prod.mk.injEq, exists_eq_right_right, or_assoc]

theorem bootstrap_of_failure? (h : attempt.script.failure? = some (.bootstrap, error)) :
    attempt.bootstrap = .error error := by
  have hmem := mem_script_iff.mp (Script.mem_of_failure? h)
  have hbootstrap : .error error = attempt.bootstrap := by simpa using hmem
  exact hbootstrap.symm

theorem mismatch_of_failure? (h : attempt.script.failure? = some (.create, error)) :
    error = .layoutMismatch attempt.factory.hook.flavour Flavour.active := by
  have hmem := mem_script_iff.mp (Script.mem_of_failure? h)
  have hcreated : .error error = attempt.created := by simpa using hmem
  rw [created] at hcreated
  split at hcreated
  · cases hcreated
  · cases hcreated
    rfl

end Attempt

namespace Bridge

variable {bridge : Bridge σ} {error : Error}

theorem answer_attempt (hhook : bridge.gate.hook = none) (attempt : Attempt σ) :
    (bridge.attempt attempt).1 = attempt.script.outcome.map fun _ => true := by
  rw [Bridge.attempt, start, hhook, build_of_unbound hhook, attempt.outcome_script]
  cases attempt.preparations.outcome with
  | error error => rfl
  | ok => rfl

theorem gate_startLogging (bridge : Bridge σ) (settings : Settings) (directory : String) :
    (bridge.startLogging settings directory).gate = bridge.gate := by
  rw [startLogging]
  split
  · rfl
  · dsimp only
    split
    · rfl
    · exact (hostMoves_raise _ _).gate

theorem gate_prepare (bridge : Bridge σ) : bridge.prepare.2.gate = bridge.gate := by
  have hloading : bridge.loadConfiguration.2.gate = bridge.gate := by
    rw [loadConfiguration]
    split
    · rfl
    · split <;> rfl
  rw [prepare]
  cases hload : bridge.loadConfiguration with
  | mk outcome loaded =>
      rw [hload] at hloading
      cases outcome with
      | error error => exact hloading
      | ok configuration =>
          dsimp only
          rw [(hostMoves_raise _ _).gate, (hostMoves_raise _ _).gate, gate_startLogging]
          exact hloading

/-- The preparation of a process fails only in loading, and only before something is loaded. -/
theorem prepare_eq_error_iff :
    bridge.prepare.1 = .error error ↔
      bridge.loaded = none ∧ bridge.environment.load = .error error := by
  rw [prepare, loadConfiguration]
  cases bridge.loaded with
  | some configuration =>
      constructor
      · intro h
        cases h
      · rintro ⟨h, -⟩
        cases h
  | none =>
      cases bridge.environment.load with
      | ok configuration =>
          constructor
          · intro h
            cases h
          · rintro ⟨-, h⟩
            cases h
      | error fault =>
          constructor
          · intro h
            cases h
            exact ⟨rfl, rfl⟩
          · rintro ⟨-, h⟩
            cases h
            rfl

def ownAttempt (bridge : Bridge σ) (factory : Factory σ) : Attempt σ :=
  ⟨(bridge.setState .initializing).prepare.1, factory⟩

theorem answer_start (hhook : bridge.gate.hook = none) (factory : Factory σ) :
    (bridge.start prepare factory).1
      = (bridge.ownAttempt factory).script.outcome.map fun _ => true := by
  cases hprepare : (bridge.setState .initializing).prepare with
  | mk outcome prepared =>
      have hattempt : bridge.ownAttempt factory = ⟨outcome, factory⟩ := by
        rw [ownAttempt, hprepare]
      have hgate := (bridge.setState .initializing).gate_prepare
      rw [hprepare] at hgate
      have hunbound : prepared.gate.hook = none := (congrArg Gate.hook hgate).trans hhook
      rw [hattempt]
      cases outcome with
      | ok =>
          obtain ⟨gate, steps, hstart⟩ := start_of_prepared hhook hprepare hunbound factory
          rw [hstart, answer_attempt hhook]
      | error error =>
          rw [start, hhook, build, andThen, hprepare]
          rfl

/-- The phase in which an attempt of a process to bind a hook fails, with the error. -/
def failure? (bridge : Bridge σ) (factory : Factory σ) : Option (Phase × Error) :=
  match bridge.gate.hook with
  | some _ => none
  | none => (bridge.ownAttempt factory).script.failure?

theorem answer_eq_error_iff (bridge : Bridge σ) (factory : Factory σ) (error : Error) :
    (bridge.start prepare factory).1 = .error error ↔
      ∃ phase, bridge.failure? factory = some (phase, error) := by
  rw [failure?]
  cases hhook : bridge.gate.hook with
  | some hook =>
      rw [start, hhook]
      constructor
      · intro h
        cases h
      · rintro ⟨_, h⟩
        cases h
  | none =>
      rw [answer_start hhook, ← Script.outcome_eq_error_iff]
      cases (bridge.ownAttempt factory).script.outcome with
      | ok =>
          constructor
          · intro h
            cases h
          · intro h
            cases h
      | error fault =>
          constructor
          · intro h
            cases h
            rfl
          · intro h
            cases h
            rfl

/-- Whether an attempt comes to a configuration file that cannot be read. -/
def StopsUnread (bridge : Bridge σ) : Prop :=
  let environment := bridge.environment
  let (basePath, userPath) := Settings.paths environment.baseFile environment.baseDirectory
  bridge.gate.hook = none ∧ bridge.loaded = none ∧
    Configuration.StopsUnread basePath (environment.files.file basePath)
      (environment.files.file userPath)

theorem failure?_of_stopsUnread (h : bridge.StopsUnread) (factory : Factory σ) :
    ∃ reason, bridge.failure? factory = some (.bootstrap, .io reason) := by
  obtain ⟨hhook, hloaded, hunread⟩ := h
  obtain ⟨reason, hload⟩ := Configuration.load_of_stopsUnread hunread _
  have hprepare : (bridge.setState .initializing).prepare.1 = .error (.io reason) :=
    prepare_eq_error_iff.mpr ⟨hloaded, hload⟩
  refine ⟨reason, ?_⟩
  rw [failure?, hhook]
  exact Attempt.failure?_of_bootstrap hprepare

theorem isFatal_of_failure? (hread : ¬bridge.StopsUnread) {factory : Factory σ} {phase : Phase}
    (h : bridge.failure? factory = some (phase, error))
    (hown : phase = .bootstrap ∨ phase = .create) : error.isFatal = true := by
  rw [failure?] at h
  cases hhook : bridge.gate.hook with
  | some hook =>
      rw [hhook] at h
      cases h
  | none =>
      rw [hhook] at h
      rcases hown with rfl | rfl
      · have hprepare := Attempt.bootstrap_of_failure? h
        obtain ⟨hloaded, hload⟩ := prepare_eq_error_iff.mp hprepare
        exact Configuration.isFatal_of_load
          (fun hunread => hread ⟨hhook, hloaded, hunread⟩) hload
      · rw [Attempt.mismatch_of_failure? h]
        rfl

/-- The errors of the preparation and of the check of the layout family are fatal if and only if no
configuration file that is there turns out to be unreadable. If one does, the attempt ends with an
error that is not fatal. -/
theorem own_failures_fatal_iff (bridge : Bridge σ) (factory : Factory σ) :
    (∀ error, (bridge.start prepare factory).1 = .error error ↔
      ∃ phase, bridge.failure? factory = some (phase, error)) ∧
    ((∀ phase error, bridge.failure? factory = some (phase, error) →
        phase = .bootstrap ∨ phase = .create → error.isFatal = true) ↔ ¬bridge.StopsUnread) ∧
    (bridge.StopsUnread → ∃ reason, bridge.failure? factory = some (.bootstrap, .io reason)) := by
  refine ⟨bridge.answer_eq_error_iff factory, ⟨fun hfatal hunread => ?_, fun hread => ?_⟩, ?_⟩
  · obtain ⟨reason, hfailure⟩ := failure?_of_stopsUnread hunread factory
    exact Bool.false_ne_true (hfatal .bootstrap (.io reason) hfailure (.inl rfl))
  · exact fun phase error hfailure hown => isFatal_of_failure? hread hfailure hown
  · exact fun hunread => failure?_of_stopsUnread hunread factory

/-- A directory stands where the base file is looked for. -/
theorem directory_not_fatal :
    let bridge := fresh ScriptedHost.quiet ⟨none, none, "/", ⟨[(["unrealsdk.toml"], .directory)]⟩⟩
    let error := Error.io "Is a directory (os error 21)"
    (bridge.start prepare fitting).1 = .error error ∧
      bridge.failure? fitting = some (.bootstrap, error) ∧ error.isFatal = false := by
  intro bridge error
  have hfailure : bridge.failure? fitting = some (.bootstrap, error) := by decide +kernel
  exact ⟨(bridge.answer_eq_error_iff fitting error).mpr ⟨_, hfailure⟩, hfailure, rfl⟩

end Bridge

end HostBridge
