import PluginHost.Registry

/-!
# The dispatcher

The dispatcher owns the registered plugins and the dependency table and calls hooks across all
plugins, always in the order of registration.

    register             a plugin and its init hook
    start, reset         every such hook, up to the first failure
    exit                 every exit hook but those of plugins whose init hook failed
    registerFor          a dependency in the name of a registered plugin
    teardown             forgets all dependencies and plugins
-/

namespace PluginHost

/-- Registered plugins, their dependencies, and the names of those whose init hook failed. -/
structure Dispatcher (σ ν : Type) where
  registry : Registry σ ν
  table : Table (Callback σ ν)
  failedInit : List String

namespace Dispatcher

variable {σ ν : Type}

def empty : Dispatcher σ ν := ⟨.empty, .empty, []⟩

instance : Inhabited (Dispatcher σ ν) := ⟨empty⟩

/-! ## Calling many plugins -/

/-- Does something for each item in turn, up to the first failure. -/
def untilFailure {α ε η : Type} (body : α → Act σ ε (Except η Unit)) :
    List α → Act σ ε (Except η Unit)
  | [] => pure (.ok ())
  | a :: as => do
    match ← body a with
    | .error e => return .error e
    | .ok () => untilFailure body as

/-- Does something for each item in turn and counts the failures. -/
def countFailures {α ε η : Type} (body : α → Act σ ε (Except η Unit)) :
    List α → Act σ ε Nat
  | [] => pure 0
  | a :: as => do
    match ← body a with
    | .error _ => return (← countFailures body as) + 1
    | .ok () => countFailures body as

/-! ## Registration -/

def callInit (t : Table (Callback σ ν)) (cfg : Config) (name : String)
    (hook : InitHook σ ν Outcome) :
    Act σ (Event ν) (Except HookError Unit × Table (Callback σ ν)) := do
  Act.emit (.call (.init name))
  Act.log .debug ("Calling " ++ name ++ "." ++ HookKind.init.symbol ++ "()")
  let (outcome, t) ← Act.mapTrace .note fun s => (hook cfg name s).run name t
  return (outcome.result, t)

/-- Registers a plugin and runs its init hook.  A plugin whose init hook fails stays registered. -/
def register (d : Dispatcher σ ν) (cfg : Config) (p : Plugin σ ν) :
    Act σ (Event ν) (Except PluginError Unit × Dispatcher σ ν) := do
  match d.registry.insert p with
  | .error e =>
    Act.log .error ("Failed to register plugin '" ++ p.name ++ "': " ++ e.message)
    return (.error e, d)
  | .ok registry =>
    match p.init with
    | none => return (.ok (), ⟨registry, d.table, d.failedInit⟩)
    | some hook =>
      let (result, table) ← callInit d.table cfg p.name hook
      match result with
      | .ok () => return (.ok (), ⟨registry, table, d.failedInit⟩)
      | .error cause =>
        Act.log .error ("Plugin '" ++ p.name ++ "' failed to initialize: " ++ cause.text)
        return (.error (.hook p.name .init cause), ⟨registry, table, p.name :: d.failedInit⟩)

/-- Registers plugins in order, up to the first failure. -/
def registerAll (d : Dispatcher σ ν) (cfg : Config) :
    List (Plugin σ ν) → Act σ (Event ν) (Except PluginError Nat × Dispatcher σ ν)
  | [] => pure (.ok d.registry.size, d)
  | p :: ps => do
    let (result, d) ← d.register cfg p
    match result with
    | .error e => return (.error e, d)
    | .ok () => d.registerAll cfg ps

/-- Registers a dependency in the name of a registered plugin. -/
def registerFor (d : Dispatcher σ ν) (plugin : String) (r : Request (Callback σ ν)) :
    Act σ (Event ν) (Except RegistrationError Nat × Dispatcher σ ν) := do
  match d.registry.get? plugin with
  | none => return (.error (.unknownPlugin plugin), d)
  | some p =>
    match d.table.insert p.name r with
    | .error e => return (.error e, d)
    | .ok (dep, table) =>
      Act.emit (.note (.log dep.registered))
      return (.ok dep.id, ⟨d.registry, table, d.failedInit⟩)

/-! ## The life of plugins -/

/-- Reports the failure of a hook that must not fail. -/
def fatal (p : Plugin σ ν) (hook : HookKind) (r : Except HookError Unit) :
    Act σ (Event ν) (Except PluginError Unit) := do
  match r with
  | .ok () => return .ok ()
  | .error cause =>
    Act.log .error ("Plugin '" ++ p.name ++ "' failed in " ++ hook.symbol ++ ": " ++ cause.text)
    return .error (.hook p.name hook cause)

/-- Calls every start hook, up to the first failure. -/
def start (d : Dispatcher σ ν) (cfg : Config) (args : List String) :
    Act σ (Event ν) (Except PluginError Unit) :=
  untilFailure
    (fun p =>
      match p.start with
      | none => pure (.ok ())
      | some hook => do fatal p .start (← Act.perform (.start p.name args) (hook cfg args)))
    (d.registry.withHook .start)

/-- Calls every reset hook, up to the first failure. -/
def reset (d : Dispatcher σ ν) (cfg : Config) : Act σ (Event ν) (Except PluginError Unit) :=
  untilFailure
    (fun p =>
      match p.reset with
      | none => pure (.ok ())
      | some hook => do fatal p .reset (← Act.perform (.reset p.name) (hook cfg ())))
    (d.registry.withHook .reset)

/-- Calls the exit hook of a plugin, unless its init hook failed. -/
def exitPlugin (d : Dispatcher σ ν) (cfg : Config) (p : Plugin σ ν) :
    Act σ (Event ν) (Except HookError Unit) :=
  match p.exit with
  | none => pure (.ok ())
  | some hook =>
    if p.name ∈ d.failedInit then do
      Act.log .debug
        ("Skipping " ++ p.name ++ "." ++ HookKind.exit.symbol ++ "(): never initialized")
      return .ok ()
    else do
      let r ← Act.perform (.exit p.name) (hook cfg ())
      match r with
      | .ok () => return .ok ()
      | .error cause =>
        Act.log .warn
          ("Plugin '" ++ p.name ++ "' failed in " ++ HookKind.exit.symbol ++ ": " ++ cause.text)
        return .error cause

/-- Calls every exit hook and gives the number of failures. -/
def exit (d : Dispatcher σ ν) (cfg : Config) : Act σ (Event ν) Nat :=
  countFailures (d.exitPlugin cfg) (d.registry.withHook .exit)

/-- Forgets all dependencies and plugins.  Ids of dependencies count on. -/
def teardown (d : Dispatcher σ ν) : Act σ (Event ν) (Dispatcher σ ν) := do
  Act.log .debug ("Dispatcher torn down (" ++ Nat.repr d.registry.size ++ " plugin(s) released)")
  return ⟨.empty, d.table.clear, []⟩

end Dispatcher

end PluginHost
