import PluginHost.FileSystem.Error
import PluginHost.Trace

/-!
# Plugins

A plugin has a name and any of the eight hooks.  Hooks and callbacks are acts on a state of any
type `σ`; they may do with it what they like.  An init hook may in addition register
dependencies: it runs as a `Setup`, which asks for one registration after another and goes on
with the answer, so that it has no other access to the table.
-/

namespace PluginHost

/-- A dependency callback: given the options, the operation and the view. -/
abbrev Callback (σ ν : Type) : Type := Config → Op → ChangeView → Act σ (Note ν) Outcome

/-- A hook that is given `ι`, and comes back with `ρ`. -/
abbrev Hook (σ ν ι ρ : Type) : Type := Config → ι → Act σ (Note ν) ρ

/-- The course of an init hook.  Each step holds what is noted before it. -/
inductive Setup (σ ν ρ : Type) where
  | finish (notes : List (Note ν)) (state : σ) (result : ρ)
  | register (notes : List (Note ν)) (request : Request (Callback σ ν))
      (resume : Except RegistrationError Nat → Setup σ ν ρ)

/-- An init hook: given the options and the name under which it registers. -/
abbrev InitHook (σ ν ρ : Type) : Type := Config → String → σ → Setup σ ν ρ

def Setup.map {σ ν ρ τ : Type} (f : ρ → τ) : Setup σ ν ρ → Setup σ ν τ
  | .finish notes state result => .finish notes state (f result)
  | .register notes request resume => .register notes request fun answer => (resume answer).map f

/-- The log record of a registration. -/
def Dependency.registered {γ : Type} (d : Dependency γ) : Log.Record :=
  ⟨.debug, "Plugin '" ++ d.plugin ++ "' registered " ++ d.kind.text ++ " dependency "
    ++ Nat.repr d.id ++ " on '" ++ d.key ++ "' (priority " ++ Nat.repr d.priority.toNat ++ ")"⟩

/-- Runs the course of an init hook for a plugin against the table. -/
def Setup.run {σ ν ρ : Type} (plugin : String) :
    Setup σ ν ρ → Table (Callback σ ν) → Ran σ (Note ν) (ρ × Table (Callback σ ν))
  | .finish notes state result, t => ⟨(result, t), state, notes⟩
  | .register notes request resume, t =>
    match t.insert plugin request with
    | .error e =>
      let r := (resume (.error e)).run plugin t
      ⟨r.value, r.state, notes ++ r.trace⟩
    | .ok (d, t) =>
      let r := (resume (.ok d.id)).run plugin t
      ⟨r.value, r.state, notes ++ .log d.registered :: r.trace⟩

/-- A plugin.  One that comes from a library has the path of its file. -/
structure Plugin (σ ν : Type) where
  name : String
  path : Option Path
  init : Option (InitHook σ ν Outcome)
  start : Option (Hook σ ν (List String) Outcome)
  exit : Option (Hook σ ν Unit Outcome)
  reset : Option (Hook σ ν Unit Outcome)
  phase : Phase → Option (Hook σ ν Transaction Outcome)

namespace Plugin

variable {σ ν : Type}

/-- A plugin without hooks. -/
def named (name : String) : Plugin σ ν := ⟨name, none, none, none, none, none, fun _ => none⟩

def has (p : Plugin σ ν) : HookKind → Bool
  | .init => p.init.isSome
  | .start => p.start.isSome
  | .exit => p.exit.isSome
  | .reset => p.reset.isSome
  | .phase ph => (p.phase ph).isSome

/-- The hooks of a plugin, in the order of its life. -/
def hooks (p : Plugin σ ν) : List HookKind := HookKind.all.filter p.has

def isDynamic (p : Plugin σ ν) : Bool := p.path.isSome

end Plugin

/-- Why a library cannot be loaded. -/
inductive LoadFault where
  | library (reason : String)
  | panicked (reason : String)
deriving DecidableEq, Repr, Inhabited

def LoadFault.text : LoadFault → String
  | .library reason => reason
  | .panicked reason => "panic while loading: " ++ reason

/-- Why plugins cannot be found, loaded, registered or started. -/
inductive PluginError where
  | load (plugin : String) (path : Path) (cause : LoadFault)
  | duplicate (name : String)
  | directory (path : Path) (cause : IoError)
  | hook (plugin : String) (hook : HookKind) (cause : HookError)
deriving DecidableEq, Repr, Inhabited

namespace PluginError

def message : PluginError → String
  | .load plugin path cause =>
    "Plugin loading failed for '" ++ plugin ++ "' (" ++ path.display ++ "): " ++ cause.text
  | .duplicate name => "Plugin '" ++ name ++ "' is already registered"
  | .directory path cause =>
    "Plugin directory '" ++ path.display ++ "' cannot be read: " ++ cause.text
  | .hook plugin kind cause =>
    "Plugin '" ++ plugin ++ "' failed in " ++ kind.symbol ++ ": " ++ cause.text

/-- The plugin that the failure is about, if any. -/
def plugin? : PluginError → Option String
  | .load plugin _ _ => some plugin
  | .duplicate name => some name
  | .directory _ _ => none
  | .hook plugin _ _ => some plugin

/-- The failure of a hook behind it, if any. -/
def cause? : PluginError → Option HookError
  | .hook _ _ cause => some cause
  | _ => none

end PluginError

end PluginHost
