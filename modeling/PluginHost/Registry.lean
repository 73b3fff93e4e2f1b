import PluginHost.Plugin

/-!
# The plugin registry

Plugins in the order of their registration, with an index from names to positions.  A name is
registered once.
-/

namespace PluginHost

structure Registry (σ ν : Type) where
  plugins : List (Plugin σ ν)
  index : List (String × Nat)

namespace Registry

variable {σ ν : Type}

def empty : Registry σ ν := ⟨[], []⟩

instance : Inhabited (Registry σ ν) := ⟨empty⟩

def position? (r : Registry σ ν) (name : String) : Option Nat :=
  (r.index.find? fun e => e.1 = name).map (·.2)

def contains (r : Registry σ ν) (name : String) : Bool := (r.position? name).isSome

def get? (r : Registry σ ν) (name : String) : Option (Plugin σ ν) :=
  (r.position? name).bind fun pos => r.plugins[pos]?

/-- Registers a plugin; a name that is taken is refused. -/
def insert (r : Registry σ ν) (p : Plugin σ ν) : Except PluginError (Registry σ ν) :=
  if r.contains p.name then .error (.duplicate p.name)
  else .ok ⟨r.plugins ++ [p], r.index ++ [(p.name, r.plugins.length)]⟩

def withHook (r : Registry σ ν) (k : HookKind) : List (Plugin σ ν) :=
  r.plugins.filter fun p => p.has k

def names (r : Registry σ ν) : List String := r.plugins.map Plugin.name

def size (r : Registry σ ν) : Nat := r.plugins.length

end Registry

end PluginHost
