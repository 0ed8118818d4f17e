import HostBridge.Proofs.Bridge.GateRuns

/-!
# Startups

A process attempts to bind a hook until it succeeds. The first attempt that can load its files fixes
the configuration and starts logging, whatever becomes of the attempt afterwards. Attempts before it
change nothing, and the files no longer matter after it.
-/

namespace HostBridge

variable {σ : Type}

/-- What happens to a process: attempts to bind a hook, calls and events, and changes of its host
and of its files and variables that are not its own doing. -/
inductive ProcessStep (σ : Type) where
  | attempt (factory : Factory σ)
  | call (request : HostCall)
  | raise (event : Event)
  | host (change : σ → σ)
  | environment (change : Environment → Environment)

def ProcessStep.change : ProcessStep σ → Environment → Environment
  | .environment change => change
  | _ => id

def ProcessStep.loads? (environment : Environment) : ProcessStep σ → Option Configuration
  | .attempt _ => environment.load.toOption
  | _ => none

namespace Environment

def changed (environment : Environment) (steps : List (ProcessStep σ)) : Environment :=
  steps.foldl (fun environment step => step.change environment) environment

/-- The environment with an empty log file where the settings want it, if it can be created. -/
def withLog (environment : Environment) (settings : Settings) : Environment :=
  match environment.files.write (Path.join environment.baseDirectory settings.logFile)
      ByteArray.empty with
  | .ok files => { environment with files := files }
  | .error _ => environment

end Environment

/-- The first attempt that can load its files: the environment it is made in, what it loads, and the
steps after it. -/
structure FirstLoad (σ : Type) where
  environment : Environment
  configuration : Configuration
  rest : List (ProcessStep σ)

def firstLoad? : Environment → List (ProcessStep σ) → Option (FirstLoad σ)
  | _, [] => none
  | environment, step :: rest =>
    match step.loads? environment with
    | some configuration => some ⟨environment, configuration, rest⟩
    | none => firstLoad? (step.change environment) rest

/-- The environment after all steps, for a bridge that writes nothing but the log file. -/
def FirstLoad.final (first : FirstLoad σ) : Environment :=
  (first.environment.withLog first.configuration.settings).changed first.rest

namespace Bridge

def take (bridge : Bridge σ) : ProcessStep σ → Bridge σ
  | .attempt factory => (bridge.start prepare factory).2
  | .call request => (bridge.call request).2
  | .raise event => bridge.raise event
  | .host change => { bridge with host := change bridge.host }
  | .environment change => { bridge with environment := change bridge.environment }

def takeAll (bridge : Bridge σ) (steps : List (ProcessStep σ)) : Bridge σ :=
  steps.foldl take bridge

structure Unloaded (bridge : Bridge σ) : Prop where
  gate : bridge.gate = Gate.closed
  loaded : bridge.loaded = none
  logging : bridge.logging = none
  subscriber : bridge.subscriber = .nobody

structure Loaded (bridge : Bridge σ) (configuration : Configuration) : Prop where
  loaded : bridge.loaded = some configuration
  logging : bridge.logging = some true
  subscriber : bridge.subscriber = .console configuration.settings.consoleLevel

variable {bridge : Bridge σ} {configuration : Configuration}

theorem Unloaded.unbound (h : bridge.Unloaded) : bridge.gate.hook = none := by
  rw [h.gate]
  rfl

theorem Loaded.of_hostMoves {after : Bridge σ} (h : bridge.Loaded configuration)
    (hmoves : HostMoves bridge after) : after.Loaded configuration where
  loaded := hmoves.loaded.trans h.loaded
  logging := hmoves.logging.trans h.logging
  subscriber := hmoves.subscriber.trans h.subscriber

theorem startLogging_of_started {installed : Bool} (h : bridge.logging = some installed)
    (settings : Settings) (directory : String) :
    bridge.startLogging settings directory = bridge := by
  rw [startLogging, h]

theorem isSome_logging_startLogging (bridge : Bridge σ) (settings : Settings)
    (directory : String) : (bridge.startLogging settings directory).logging.isSome := by
  rw [startLogging]
  split
  next hstarted => rw [hstarted]; rfl
  next =>
    dsimp only
    split
    · rfl
    · rw [(hostMoves_raise _ _).logging]
      rfl

/-- Logging is started once; whoever asks for it again changes nothing. -/
theorem startLogging_startLogging (bridge : Bridge σ) (settings settings' : Settings)
    (directory directory' : String) :
    (bridge.startLogging settings directory).startLogging settings' directory'
      = bridge.startLogging settings directory := by
  obtain ⟨installed, hstarted⟩ :=
    Option.isSome_iff_exists.mp (isSome_logging_startLogging bridge settings directory)
  exact startLogging_of_started hstarted settings' directory'

theorem startLogging_of_unstarted (bridge : Bridge σ) (hhook : bridge.gate.hook = none)
    (hlogging : bridge.logging = none) (hsubscriber : bridge.subscriber = .nobody)
    (settings : Settings) :
    bridge.startLogging settings bridge.environment.baseDirectory = { bridge with
      subscriber := .console settings.consoleLevel
      logging := some true
      environment := bridge.environment.withLog settings } := by
  rw [startLogging, hlogging, hsubscriber, Environment.withLog, Settings.logPath]
  dsimp only
  cases bridge.environment.files.write
      (Path.join bridge.environment.baseDirectory settings.logFile) ByteArray.empty with
  | ok files => rfl
  | error obstacle =>
      refine (raise_of_unbound ?_ _).trans rfl
      exact hhook

def equipped (bridge : Bridge σ) (configuration : Configuration) : Bridge σ :=
  { bridge with
    loaded := some configuration
    subscriber := .console configuration.settings.consoleLevel
    logging := some true
    environment := bridge.environment.withLog configuration.settings }

theorem prepare_of_error (bridge : Bridge σ) (hloaded : bridge.loaded = none) {error : Error}
    (hload : bridge.environment.load = .error error) :
    bridge.prepare = (.error error, bridge) := by
  rw [prepare, loadConfiguration, hloaded, hload]

theorem prepare_of_load (bridge : Bridge σ) (hhook : bridge.gate.hook = none)
    (hloaded : bridge.loaded = none) (hlogging : bridge.logging = none)
    (hsubscriber : bridge.subscriber = .nobody)
    (hload : bridge.environment.load = .ok configuration) :
    bridge.prepare = (.ok (), bridge.equipped configuration) := by
  have hlogged : ({ bridge with loaded := some configuration }).startLogging
      configuration.settings bridge.environment.baseDirectory = bridge.equipped configuration :=
    startLogging_of_unstarted { bridge with loaded := some configuration } hhook hlogging
      hsubscriber configuration.settings
  have hunbound : (bridge.equipped configuration).gate.hook = none := hhook
  rw [prepare, loadConfiguration, hloaded, hload]
  dsimp only
  rw [hlogged, raise_of_unbound hunbound, raise_of_unbound hunbound]

theorem prepare_of_loaded (h : bridge.Loaded configuration) :
    ∃ prepared, bridge.prepare = (.ok (), prepared) ∧ HostMoves bridge prepared ∧
      (bridge.gate.hook = none → prepared = bridge) := by
  rw [prepare, loadConfiguration, h.loaded]
  dsimp only
  rw [startLogging_of_started h.logging]
  refine ⟨_, rfl, (hostMoves_raise _ _).trans (hostMoves_raise _ _), fun hhook => ?_⟩
  rw [raise_of_unbound hhook, raise_of_unbound hhook]

/-- Once a process is prepared, an attempt goes on and ends like one that needs no preparation, and
leaves alone what does not belong to the gate. -/
theorem start_of_prepared {preparation : Bridge σ → Except Error Unit × Bridge σ}
    {prepared : Bridge σ} (hhook : bridge.gate.hook = none)
    (hprepare : preparation (bridge.setState .initializing) = (.ok (), prepared))
    (hunbound : prepared.gate.hook = none) (factory : Factory σ) :
    ∃ gate steps, bridge.start preparation factory
      = ((bridge.attempt ⟨.ok (), factory⟩).1,
        { prepared with gate := gate, steps := steps }) := by
  let attempt : Attempt σ := ⟨.ok (), factory⟩
  let phases : Script := (factory.substrate.toList.map fun result => (.substrate, result)) ++
    [(.create, attempt.created), (.install, factory.install)]
  have houtcome : attempt.preparations.outcome = phases.outcome := rfl
  have hbuild : build preparation factory (bridge.setState .initializing)
      = (phases.outcome, prepared.enterAll phases.reached) := by
    rw [build, andThen, hprepare]
    exact performs_andThen (performs_prepareSubstrate factory) (performs_installHook attempt)
      prepared hunbound
  have hattempt := build_of_unbound hhook attempt
  rw [houtcome] at hattempt
  rw [Bridge.attempt, start, start, hhook]
  dsimp only
  rw [hbuild, hattempt]
  cases phases.outcome with
  | error error =>
      have hclosed : ((prepared.enterAll phases.reached).setState .uninitialized).gate.hook
          = none := by
        rw [enterAll_eq]
        exact hunbound
      dsimp only
      rw [raise_of_unbound hclosed, enterAll_eq]
      exact ⟨_, _, rfl⟩
  | ok =>
      dsimp only
      rw [enterAll_eq]
      exact ⟨_, _, rfl⟩

theorem start_of_load_error (h : bridge.Unloaded) {error : Error}
    (hload : bridge.environment.load = .error error) (factory : Factory σ) :
    bridge.start prepare factory = (.error error, bridge) := by
  have hprepare : (bridge.setState .initializing).prepare
      = (.error error, bridge.setState .initializing) :=
    prepare_of_error (bridge.setState .initializing) h.loaded hload
  have hbuild : build prepare factory (bridge.setState .initializing)
      = (.error error, bridge.setState .initializing) := by
    rw [build, andThen, hprepare]
  have hreset : (bridge.setState .initializing).setState .uninitialized = bridge := by
    have hgate : Gate.mk .uninitialized bridge.gate.hook = bridge.gate := by
      rw [h.gate]
      rfl
    rw [setState, setState, hgate]
  rw [start, h.unbound]
  dsimp only
  rw [hbuild]
  dsimp only
  rw [hreset, raise_of_unbound h.unbound]

theorem start_of_load (h : bridge.Unloaded) (hload : bridge.environment.load = .ok configuration)
    (factory : Factory σ) :
    ∃ gate steps, bridge.start prepare factory = ((bridge.attempt ⟨.ok (), factory⟩).1,
      { bridge.equipped configuration with gate := gate, steps := steps }) := by
  have hprepare : (bridge.setState .initializing).prepare
      = (.ok (), (bridge.setState .initializing).equipped configuration) :=
    prepare_of_load (bridge.setState .initializing) h.unbound h.loaded h.logging h.subscriber hload
  exact start_of_prepared h.unbound hprepare h.unbound factory

theorem start_of_loaded (h : bridge.Loaded configuration) (factory : Factory σ) :
    ∃ gate steps, bridge.start prepare factory = ((bridge.attempt ⟨.ok (), factory⟩).1,
      { bridge with gate := gate, steps := steps }) := by
  cases hhook : bridge.gate.hook with
  | some hook =>
      refine ⟨bridge.gate, bridge.steps, ?_⟩
      rw [attempt_of_bound hhook, start, hhook]
  | none =>
      have hinitializing : (bridge.setState .initializing).Loaded configuration :=
        ⟨h.loaded, h.logging, h.subscriber⟩
      obtain ⟨prepared, hprepare, -, hsame⟩ := prepare_of_loaded hinitializing
      rw [hsame hhook] at hprepare
      exact start_of_prepared hhook hprepare hhook factory

theorem unloaded_take (h : bridge.Unloaded) {step : ProcessStep σ}
    (hloads : step.loads? bridge.environment = none) :
    (bridge.take step).Unloaded ∧
      (bridge.take step).environment = step.change bridge.environment := by
  cases step with
  | attempt factory =>
      rw [ProcessStep.loads?] at hloads
      cases hload : bridge.environment.load with
      | ok configuration =>
          rw [hload] at hloads
          cases hloads
      | error error =>
          rw [take, start_of_load_error h hload]
          exact ⟨h, rfl⟩
  | call request =>
      rw [take, call_of_unbound h.unbound]
      exact ⟨h, rfl⟩
  | raise event =>
      rw [take, raise_of_unbound h.unbound]
      exact ⟨h, rfl⟩
  | host change => exact ⟨⟨h.gate, h.loaded, h.logging, h.subscriber⟩, rfl⟩
  | environment change => exact ⟨⟨h.gate, h.loaded, h.logging, h.subscriber⟩, rfl⟩

theorem loaded_take_of_unloaded (h : bridge.Unloaded) {step : ProcessStep σ}
    (hloads : step.loads? bridge.environment = some configuration) :
    (bridge.take step).Loaded configuration ∧
      (bridge.take step).environment = bridge.environment.withLog configuration.settings := by
  cases step with
  | call | raise | host | environment => cases hloads
  | attempt factory =>
      have hload : bridge.environment.load = .ok configuration := by
        rw [ProcessStep.loads?] at hloads
        cases hload : bridge.environment.load with
        | error error =>
            rw [hload] at hloads
            cases hloads
        | ok found =>
            rw [hload] at hloads
            exact congrArg Except.ok (Option.some.inj hloads)
      obtain ⟨gate, steps, hstart⟩ := start_of_load h hload factory
      rw [take, hstart]
      exact ⟨⟨rfl, rfl, rfl⟩, rfl⟩

theorem loaded_take (h : bridge.Loaded configuration) (step : ProcessStep σ) :
    (bridge.take step).Loaded configuration ∧
      (bridge.take step).environment = step.change bridge.environment := by
  cases step with
  | attempt factory =>
      obtain ⟨gate, steps, hstart⟩ := start_of_loaded h factory
      rw [take, hstart]
      exact ⟨⟨h.loaded, h.logging, h.subscriber⟩, rfl⟩
  | call request =>
      have hmoves := hostMoves_call request bridge
      exact ⟨h.of_hostMoves hmoves, hmoves.environment⟩
  | raise event =>
      have hmoves := hostMoves_raise bridge event
      exact ⟨h.of_hostMoves hmoves, hmoves.environment⟩
  | host change => exact ⟨⟨h.loaded, h.logging, h.subscriber⟩, rfl⟩
  | environment change => exact ⟨⟨h.loaded, h.logging, h.subscriber⟩, rfl⟩

theorem loaded_takeAll (h : bridge.Loaded configuration) (steps : List (ProcessStep σ)) :
    (bridge.takeAll steps).Loaded configuration ∧
      (bridge.takeAll steps).environment = bridge.environment.changed steps := by
  induction steps generalizing bridge with
  | nil => exact ⟨h, rfl⟩
  | cons step rest ih =>
      obtain ⟨hstep, henvironment⟩ := loaded_take h step
      obtain ⟨hrest, hfinal⟩ := ih hstep
      rw [henvironment] at hfinal
      exact ⟨hrest, hfinal⟩

/-- What is true of a bridge after all steps, given the first attempt among them that can load its
files. -/
def Follows (final : Bridge σ) (unchanged : Environment) : Option (FirstLoad σ) → Prop
  | none => final.Unloaded ∧ final.environment = unchanged
  | some first => final.Loaded first.configuration ∧ final.environment = first.final

theorem follows_takeAll (h : bridge.Unloaded) (steps : List (ProcessStep σ)) :
    (bridge.takeAll steps).Follows (bridge.environment.changed steps)
      (firstLoad? bridge.environment steps) := by
  -- Up to the first load the bridge stays unloaded; what comes after it is `loaded_takeAll`.
  induction steps generalizing bridge with
  | nil => exact ⟨h, rfl⟩
  | cons step rest ih =>
      rw [firstLoad?]
      cases hloads : step.loads? bridge.environment with
      | none =>
          obtain ⟨hstep, henvironment⟩ := unloaded_take h hloads
          have hrest := ih hstep
          rw [henvironment] at hrest
          exact hrest
      | some configuration =>
          obtain ⟨hstep, henvironment⟩ := loaded_take_of_unloaded h hloads
          obtain ⟨hfinal, hchanged⟩ := loaded_takeAll hstep rest
          rw [henvironment] at hchanged
          exact ⟨hfinal, hchanged⟩

section Follows

variable {final : Bridge σ} {unchanged : Environment} {first? : Option (FirstLoad σ)}

theorem Follows.settings (h : final.Follows unchanged first?) :
    final.configuration = (first?.map FirstLoad.configuration).getD Configuration.initial ∧
      final.threshold = first?.map (·.configuration.settings.consoleLevel) ∧
      final.isLogging = first?.isSome := by
  rw [configuration, threshold, isLogging]
  cases first? with
  | none =>
      obtain ⟨hunloaded, -⟩ := h
      rw [hunloaded.loaded, hunloaded.subscriber, hunloaded.logging]
      exact ⟨rfl, rfl, rfl⟩
  | some first =>
      obtain ⟨hloaded, -⟩ := h
      rw [hloaded.loaded, hloaded.subscriber, hloaded.logging]
      exact ⟨rfl, rfl, rfl⟩

theorem Follows.environment (h : final.Follows unchanged first?) :
    final.environment = (first?.map FirstLoad.final).getD unchanged := by
  cases first? with
  | none => exact h.2
  | some first => exact h.2

theorem Follows.startLogging (h : final.Follows unchanged first?) (hsome : first?.isSome)
    (settings : Settings) (directory : String) : final.startLogging settings directory = final := by
  obtain ⟨first, rfl⟩ := Option.isSome_iff_exists.mp hsome
  exact startLogging_of_started h.1.logging settings directory

theorem Follows.fails (h : final.Follows unchanged none) {error : Error}
    (hload : final.environment.load = .error error) (factory : Factory σ) :
    final.start prepare factory = (.error error, final) :=
  start_of_load_error h.1 hload factory

theorem Follows.goesOn (h : final.Follows unchanged first?)
    (hsome : first?.isSome ∨ final.environment.load.isOk) (factory : Factory σ) :
    (final.start prepare factory).1 = (final.attempt ⟨.ok (), factory⟩).1 ∧
      (final.setState .initializing).prepare.2.configuration
        = (final.start prepare factory).2.configuration := by
  cases first? with
  | none =>
      obtain ⟨hunloaded, -⟩ := h
      cases hload : final.environment.load with
      | error error =>
          rw [hload] at hsome
          rcases hsome with hsome | hsome <;> cases hsome
      | ok configuration =>
          obtain ⟨gate, taken, hstart⟩ := start_of_load hunloaded hload factory
          have hprepare := prepare_of_load (final.setState .initializing) hunloaded.unbound
            hunloaded.loaded hunloaded.logging hunloaded.subscriber hload
          rw [hstart, hprepare]
          exact ⟨rfl, rfl⟩
  | some first =>
      obtain ⟨hloaded, -⟩ := h
      have hinitializing : (final.setState .initializing).Loaded first.configuration :=
        ⟨hloaded.loaded, hloaded.logging, hloaded.subscriber⟩
      obtain ⟨prepared, hprepare, hmoves, -⟩ := prepare_of_loaded hinitializing
      obtain ⟨gate, taken, hstart⟩ := start_of_loaded hloaded factory
      rw [hstart, hprepare]
      exact ⟨rfl, congrArg (·.getD Configuration.initial) hmoves.loaded⟩

end Follows

/-- At every point of a run, the configuration, the console's threshold and the log file are those
of the first attempt that could load its files, whatever else happened to it or came after it. Until
then an attempt fails because of its files alone and changes nothing; from then on attempts end as
if they read no files. -/
theorem first_load_stays (h : bridge.Unloaded) (steps : List (ProcessStep σ)) :
    let final := bridge.takeAll steps
    let first? := firstLoad? bridge.environment steps
    final.configuration = (first?.map FirstLoad.configuration).getD Configuration.initial ∧
      final.threshold = first?.map (·.configuration.settings.consoleLevel) ∧
      final.isLogging = first?.isSome ∧
      final.environment = (first?.map FirstLoad.final).getD (bridge.environment.changed steps) ∧
      (∀ factory : Factory σ,
        (∀ error, first? = none → final.environment.load = .error error →
          final.start prepare factory = (.error error, final)) ∧
        (first?.isSome ∨ final.environment.load.isOk →
          (final.start prepare factory).1 = (final.attempt ⟨.ok (), factory⟩).1 ∧
            (final.setState .initializing).prepare.2.configuration
              = (final.start prepare factory).2.configuration)) ∧
      ∀ settings settings' directory directory',
        (first?.isSome → final.startLogging settings directory = final) ∧
          (final.startLogging settings directory).startLogging settings' directory'
            = final.startLogging settings directory := by
  intro final first?
  have hfollows : final.Follows (bridge.environment.changed steps) first? := follows_takeAll h steps
  obtain ⟨hconfiguration, hthreshold, hlogging⟩ := hfollows.settings
  refine ⟨hconfiguration, hthreshold, hlogging, hfollows.environment, fun factory => ⟨?_, ?_⟩, ?_⟩
  · intro error hnone hload
    rw [hnone] at hfollows
    exact hfollows.fails hload factory
  · exact fun hsome => hfollows.goesOn hsome factory
  · intro settings settings' directory directory'
    exact ⟨fun hsome => hfollows.startLogging hsome settings directory,
      startLogging_startLogging final settings settings' directory directory'⟩

def withBaseFile (text : String) : Environment :=
  ⟨none, none, "/", ⟨[(["unrealsdk.toml"], .ofText text)]⟩⟩

def fitting : Factory ScriptedHost := ⟨none, ScriptedHost.quiet.hook .oak, .ok ()⟩

/-- The file is repaired, an attempt with a hook for another layout family loads it and fails, and
the file is broken again. -/
def repair : List (ProcessStep ScriptedHost) :=
  [.attempt fitting,
    .environment fun _ => withBaseFile "[unrealsdk]\nconsole_log_level = \"trace\"\n",
    .attempt ⟨none, ScriptedHost.quiet.hook .willow, .ok ()⟩,
    .environment fun _ => withBaseFile "["]

theorem threshold_after_repair :
    let bridge := fresh ScriptedHost.quiet (withBaseFile "[")
    let final := bridge.takeAll repair
    bridge.Unloaded ∧ final.environment.load.isOk = false ∧
      (∃ error, bridge.start prepare fitting = (.error error, bridge)) ∧
      (final.start prepare fitting).1.toOption = some true ∧ final.threshold = some .trace ∧
      final.startLogging {} "/" = final := by
  intro bridge final
  have hunloaded : bridge.Unloaded := ⟨rfl, rfl, rfl, rfl⟩
  have hfirst : (firstLoad? bridge.environment repair).map
      (·.configuration.settings.consoleLevel) = some .trace := by decide +kernel
  have hsome : (firstLoad? bridge.environment repair).isSome := by
    rw [← Option.isSome_map, hfirst]
    rfl
  have hbroken : (withBaseFile "[").load.isOk = false := by decide +kernel
  obtain ⟨-, -, -, -, hbefore, -⟩ := first_load_stays hunloaded ([] : List (ProcessStep _))
  obtain ⟨-, hthreshold, -, -, hafter, hlogging⟩ := first_load_stays hunloaded repair
  obtain ⟨hanswer, -⟩ := (hafter fitting).2 (.inl hsome)
  have hbound : (final.attempt ⟨.ok (), fitting⟩).1.toOption = some true := by decide +kernel
  refine ⟨hunloaded, hbroken, ?_, (congrArg _ hanswer).trans hbound, hthreshold.trans hfirst,
    (hlogging {} {} "/" "/").1 hsome⟩
  cases hload : (withBaseFile "[").load with
  | error error => exact ⟨error, (hbefore fitting).1 error rfl hload⟩
  | ok configuration =>
      rw [hload] at hbroken
      cases hbroken

end Bridge

end HostBridge
