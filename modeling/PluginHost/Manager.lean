import PluginHost.Dispatcher.Commit
import PluginHost.Error
import PluginHost.Loader

/-!
# The plugin manager

The manager joins a loader and a dispatcher: it loads the configured directories, starts and stops
the plugins, and hands transactions on.
-/

namespace PluginHost

/-- A loader, a dispatcher, and the arguments for the start hooks. -/
structure Manager (σ ν : Type) where
  loader : Loader
  dispatcher : Dispatcher σ ν
  startArgs : List String

/-- A registered dependency, as operators see it. -/
structure DependencyInfo where
  id : Nat
  kind : Dependency.Kind
  priority : UInt16
  key : String
deriving DecidableEq, Repr, Inhabited

/-- A registered plugin, as operators see it. -/
structure PluginInfo where
  name : String
  path : Option Path
  hooks : List HookKind
  dependencies : List DependencyInfo
deriving DecidableEq, Repr, Inhabited

namespace Manager

variable {σ ν : Type}

def name : String := "DefaultPluginManager"

def ofConfig (cfg : Config) : Manager σ ν := ⟨.ofConfig cfg, .empty, []⟩

/-- The manager with another dispatcher. -/
def within (m : Manager σ ν) (d : Dispatcher σ ν) : Manager σ ν := ⟨m.loader, d, m.startArgs⟩

def setStartArgs (m : Manager σ ν) (args : List String) : Manager σ ν :=
  ⟨m.loader, m.dispatcher, args⟩

/-! ## Loading -/

def loadPlugin (m : Manager σ ν) (disk : Disk σ ν) (cfg : Config) (path : Path) :
    Act σ (Event ν) (Except PluginError Unit × Manager σ ν) := do
  let (result, d) ← m.dispatcher.loadAll disk cfg [path]
  return (result.map fun _ => (), m.within d)

/-- Loads the plugins of a directory and gives the number registered. -/
def loadDir (m : Manager σ ν) (disk : Disk σ ν) (cfg : Config) (dir : Path) :
    Act σ (Event ν) (Except PluginError Nat × Manager σ ν) := do
  match ← m.loader.discoverDir disk dir with
  | .error e => return (.error e, m)
  | .ok paths =>
    Act.log .info
      ("Loading " ++ Nat.repr paths.length ++ " plugin(s) from " ++ dir.display)
    let (result, d) ← m.dispatcher.loadAll disk cfg paths
    return (result, m.within d)

/-- Registers a plugin that is part of the host. -/
def register (m : Manager σ ν) (cfg : Config) (p : Plugin σ ν) :
    Act σ (Event ν) (Except PluginError Unit × Manager σ ν) := do
  let (result, d) ← m.dispatcher.register cfg p
  return (result, m.within d)

/-! ## Life -/

/-- Loads directories in order, up to the first failure; gives the number registered at the
end. -/
def loadDirs (m : Manager σ ν) (disk : Disk σ ν) (cfg : Config) (total : Nat) :
    List Path → Act σ (Event ν) (Except PluginError Nat × Manager σ ν)
  | [] => pure (.ok total, m)
  | dir :: dirs => do
    let (result, m) ← m.loadDir disk cfg dir
    match result with
    | .error e => return (.error e, m)
    | .ok total => m.loadDirs disk cfg total dirs

def setUp (m : Manager σ ν) (disk : Disk σ ν) (cfg : Config) :
    Act σ (Event ν) (Except PluginError Unit × Manager σ ν) := do
  Act.log .info "Initializing Plugin Manager..."
  let (result, m) ← m.loadDirs disk cfg 0 m.loader.dirs
  match result with
  | .error e => return (.error e, m)
  | .ok total =>
    Act.log .info ("Plugin Manager initialized with " ++ Nat.repr total ++ " plugin(s)")
    return (.ok (), m)

/-- Starts the plugins with the arguments that were set. -/
def start (m : Manager σ ν) (cfg : Config) : Act σ (Event ν) (Except PluginError Unit) := do
  Act.log .info "Starting Plugin Manager - starting plugins..."
  m.dispatcher.start cfg m.startArgs

/-- Calls the exit hooks and forgets all plugins. -/
def stop (m : Manager σ ν) (cfg : Config) : Act σ (Event ν) (Manager σ ν) := do
  Act.log .info "Stopping Plugin Manager - shutting down plugins..."
  let failures ← m.dispatcher.exit cfg
  if 0 < failures then
    Act.log .warn (Nat.repr failures ++ " plugin(s) failed to exit cleanly")
  return m.within (← m.dispatcher.teardown)

/-! ## Inspection -/

def dependencyInfo {γ : Type} (d : Dependency γ) : DependencyInfo :=
  ⟨d.id, d.kind, d.priority, d.key⟩

def info (m : Manager σ ν) : List PluginInfo :=
  m.dispatcher.registry.plugins.map fun p =>
    ⟨p.name, p.path, p.hooks, (m.dispatcher.table.ofPlugin p.name).map dependencyInfo⟩

end Manager

end PluginHost
