import PluginHost.Manager

/-!
# The backend

The backend leads the plugin manager through its life and numbers the transactions.

    setUp     loads all plugins, and resets them if so configured; not twice in a row
    start     starts them; only after setUp, and once
    commit    leads a change set through a transaction; only after setUp
    shutdown  stops everything, whatever the state
-/

namespace PluginHost

/-- The host of a plugin manager. -/
structure Backend (σ ν : Type) where
  config : Config
  isSetUp : Bool
  isStarted : Bool
  manager : Manager σ ν
  nextTransaction : Nat

namespace Backend

variable {σ ν : Type}

/-- The name and version of the host. -/
def title : String := "cfghook"

def version : String := "0.1.0"

/-- The backend of a configuration, before anything is loaded. -/
def create (cfg : Config) : Act σ (Event ν) (Backend σ ν) := do
  Act.log .info ("Initializing " ++ title ++ " v" ++ version)
  Act.log .info ("Using plugin directory: " ++ cfg.backendDir.display)
  return ⟨cfg, false, false, .ofConfig cfg, 1⟩

/-- The backend with another manager. -/
def within (b : Backend σ ν) (m : Manager σ ν) : Backend σ ν :=
  ⟨b.config, b.isSetUp, b.isStarted, m, b.nextTransaction⟩

/-- The backend in another state. -/
def flagged (b : Backend σ ν) (isSetUp isStarted : Bool) : Backend σ ν :=
  ⟨b.config, isSetUp, isStarted, b.manager, b.nextTransaction⟩

/-- Registers a plugin that is part of the host. -/
def register (b : Backend σ ν) (p : Plugin σ ν) :
    Act σ (Event ν) (Except HostError Unit × Backend σ ν) := do
  let (result, m) ← b.manager.register b.config p
  return (result.mapError .plugin, b.within m)

/-- The error of the plugin manager at a stage. -/
def managerError (stage : Stage) (e : PluginError) : HostError :=
  .component stage Manager.name (.plugin e)

def reset (b : Backend σ ν) : Act σ (Event ν) (Except HostError Unit) := do
  Act.log .info "Resetting plugins..."
  return (← b.manager.dispatcher.reset b.config).mapError (managerError .reset)

/-- Loads all configured plugins and, if so configured, resets them. -/
def setUp (b : Backend σ ν) (disk : Disk σ ν) :
    Act σ (Event ν) (Except HostError Unit × Backend σ ν) := do
  if b.isSetUp then return (.error (.refused .alreadySetUp), b)
  else
    Act.log .info "Initializing components..."
    Act.log .info ("Initializing component: " ++ Manager.name)
    let (loaded, m) ← b.manager.setUp disk b.config
    let b := b.within m
    match loaded with
    | .error e => return (.error (managerError .setUp e), b)
    | .ok () =>
      let b := b.flagged true b.isStarted
      let result ← if b.config.resetOnStart then b.reset else pure (.ok ())
      match result with
      | .error e => return (.error e, b)
      | .ok () =>
        Act.log .info "Component initialization complete."
        return (.ok (), b)

def start (b : Backend σ ν) (args : List String) :
    Act σ (Event ν) (Except HostError Unit × Backend σ ν) := do
  if !b.isSetUp || b.isStarted then return (.error (.refused .notReadyToStart), b)
  else
    let b := b.within (b.manager.setStartArgs args)
    Act.log .info "Starting components..."
    Act.log .info ("Starting component: " ++ Manager.name)
    match ← b.manager.start b.config with
    | .error e => return (.error (managerError .start e), b)
    | .ok () =>
      Act.log .info "Component start complete."
      return (.ok (), b.flagged b.isSetUp true)

/-- Sets the backend up and starts it. -/
def run (b : Backend σ ν) (disk : Disk σ ν) (args : List String) :
    Act σ (Event ν) (Except HostError Unit × Backend σ ν) := do
  let (result, b) ← b.setUp disk
  match result with
  | .error e => return (.error e, b)
  | .ok () => b.start args

/-! ## Transactions -/

def newTransaction (b : Backend σ ν) (s : ChangeSet) : Transaction × Backend σ ν :=
  (.ofChangeSet b.nextTransaction b.config s,
    ⟨b.config, b.isSetUp, b.isStarted, b.manager, b.nextTransaction + 1⟩)

def commit (b : Backend σ ν) (s : ChangeSet) :
    Act σ (Event ν) (Except HostError Summary × Backend σ ν) := do
  if b.isSetUp then
    let (tx, b) := b.newTransaction s
    return ((← b.manager.dispatcher.commit b.config tx).mapError .transaction, b)
  else return (.error (.refused .notSetUp), b)

def validate (b : Backend σ ν) (s : ChangeSet) :
    Act σ (Event ν) (Except HostError Summary × Backend σ ν) := do
  if b.isSetUp then
    let (tx, b) := b.newTransaction s
    return ((← b.manager.dispatcher.validate b.config tx).mapError .transaction, b)
  else return (.error (.refused .notSetUp), b)

/-- Stops and forgets all plugins. -/
def shutdown (b : Backend σ ν) : Act σ (Event ν) (Backend σ ν) := do
  Act.log .info "Shutting down components..."
  Act.log .info ("Stopping component: " ++ Manager.name)
  let m ← b.manager.stop b.config
  Act.log .info "Component shutdown complete."
  return (b.within m).flagged false false

end Backend

end PluginHost
