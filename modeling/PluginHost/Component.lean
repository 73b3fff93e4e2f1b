import PluginHost.Error

/-!
# Components

A registry holds at most one component of each of several types `κ`; a type `k` has components
`α k`.  Registering another component of a type replaces the one before.
-/

namespace PluginHost

/-- What the host does with a component. -/
structure Component (α : Type) where
  name : String
  start : α → Except HostError Unit
  stop : α → Except HostError Unit

/-- Components by their types. -/
structure ComponentRegistry (κ : Type) (α : κ → Type) where
  entries : List (Sigma α)

namespace ComponentRegistry

variable {κ : Type} [DecidableEq κ] {α : κ → Type}

def empty : ComponentRegistry κ α := ⟨[]⟩

def get? (r : ComponentRegistry κ α) (k : κ) : Option (α k) :=
  r.entries.findSome? fun e => if h : e.1 = k then some (h ▸ e.2) else none

/-- Registers a component, in place of one of the same type. -/
def insert (r : ComponentRegistry κ α) (k : κ) (a : α k) : ComponentRegistry κ α :=
  ⟨(r.entries.filter fun e => e.1 ≠ k) ++ [⟨k, a⟩]⟩

/-- The types that have a component. -/
def kinds (r : ComponentRegistry κ α) : List κ := r.entries.map (·.1)

def size (r : ComponentRegistry κ α) : Nat := r.entries.length

def isEmpty (r : ComponentRegistry κ α) : Bool := r.entries.isEmpty

end ComponentRegistry

end PluginHost
