import PluginHost.Dependency

/-!
# The dependency table

Dependencies in the order of their registration, with an index from each key to the ascending
positions of its entries.  Ids count up and are never used again, also after `clear`.
-/

namespace PluginHost

/-! ## The index -/

/-- Positions under keys. -/
structure KeyIndex where
  slots : List (String × List Nat)
deriving Repr, Inhabited

namespace KeyIndex

def positions (x : KeyIndex) (key : String) : List Nat :=
  match x.slots.find? fun s => s.1 = key with
  | none => []
  | some s => s.2

/-- Adds a position behind those of a key. -/
def push (x : KeyIndex) (key : String) (pos : Nat) : KeyIndex :=
  if x.slots.any fun s => s.1 = key then
    ⟨x.slots.map fun s => if s.1 = key then (s.1, s.2 ++ [pos]) else s⟩
  else ⟨x.slots ++ [(key, [pos])]⟩

end KeyIndex

/-! ## The table -/

structure Table (γ : Type) where
  entries : List (Dependency γ)
  index : KeyIndex
  nextId : Nat

/-- What a plugin asks for when it registers a dependency. -/
structure Request (γ : Type) where
  kind : Dependency.Kind
  priority : UInt16
  key : String
  arg : Option Datum
  callback : γ

namespace Table

variable {γ : Type}

def empty : Table γ := ⟨[], ⟨[]⟩, 0⟩

instance : Inhabited (Table γ) := ⟨empty⟩

/-- Registers a dependency for a plugin and gives it the next id; a key that is not well formed
is refused. -/
def insert (t : Table γ) (plugin : String) (r : Request γ) :
    Except RegistrationError (Dependency γ × Table γ) :=
  match Key.fault? r.key with
  | some fault => .error (.invalidKey r.key fault)
  | none =>
    let d : Dependency γ := ⟨t.nextId, plugin, r.priority, r.kind, r.key, r.arg, r.callback⟩
    .ok (d, ⟨t.entries ++ [d], t.index.push r.key t.entries.length, t.nextId + 1⟩)

def get? (t : Table γ) (id : Nat) : Option (Dependency γ) := t.entries.find? fun d => d.id = id

/-- The dependencies of a plugin, in order of registration. -/
def ofPlugin (t : Table γ) (plugin : String) : List (Dependency γ) :=
  t.entries.filter fun d => d.plugin = plugin

/-- The dependencies on just this key, in order of registration. -/
def lookup (t : Table γ) (key : String) : List (Dependency γ) :=
  (t.index.positions key).filterMap fun pos => t.entries[pos]?

/-- The order of calls: by priority, then by id. -/
def precedes (a b : Dependency γ) : Bool :=
  a.priority < b.priority || (a.priority = b.priority && a.id ≤ b.id)

/-- The dependencies that a change to a key concerns, in the order of calls. -/
def matching (t : Table γ) (key : String) : List (Dependency γ) :=
  (((Key.ancestors key).flatMap t.lookup).filter fun d => d.matchesKey key).mergeSort precedes

def clear (t : Table γ) : Table γ := ⟨[], ⟨[]⟩, t.nextId⟩

end Table

end PluginHost
