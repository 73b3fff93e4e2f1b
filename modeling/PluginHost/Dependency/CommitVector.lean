import PluginHost.Change
import PluginHost.Dependency.Table

/-!
# The commit vector

The calls that a change set asks for, in order.  A dependency on a key is called once for each
change to that key; a dependency on a subtree is called once for all changes in it, with the
operation that sums them up.  Calls go by priority, then id, then the position of the first change.

The vector is built in one pass over the changes.  For each change the index gives the entries on
its key and on the ancestors of its key; the call of a subtree is made once and then extended in
place, found again by the slot that is kept for its entry.
-/

namespace PluginHost

/-- A call of a dependency: the operation, and the positions of the changes it covers. -/
structure Invocation (γ : Type) where
  dependency : Dependency γ
  op : Op
  changes : List Nat

namespace Invocation

variable {γ : Type}

/-- The position of the first change covered. -/
def first (i : Invocation γ) : Nat := i.changes.headD 0

def precedes (a b : Invocation γ) : Bool :=
  let d := a.dependency
  let e := b.dependency
  d.priority < e.priority
    || (d.priority = e.priority && (d.id < e.id || (d.id = e.id && a.first ≤ b.first)))

/-- Covers one more change. -/
def extend (i : Invocation γ) (op : Op) (pos : Nat) : Invocation γ :=
  ⟨i.dependency, i.op.merge op, i.changes ++ [pos]⟩

end Invocation

/-- Calls in the making: those so far, and for each entry on a subtree the slot of its call. -/
structure Draft (γ : Type) where
  calls : List (Invocation γ)
  slots : List (Nat × Nat)

namespace Draft

variable {γ : Type}

def empty : Draft γ := ⟨[], []⟩

/-- The slot of the call of an entry. -/
def slot? (x : Draft γ) (entry : Nat) : Option Nat :=
  (x.slots.find? fun s => s.1 = entry).map (·.2)

def push (x : Draft γ) (i : Invocation γ) : Draft γ := ⟨x.calls ++ [i], x.slots⟩

/-- Adds the change at `pos` to the call of a subtree, or a call for it. -/
def cover (x : Draft γ) (entry : Nat) (d : Dependency γ) (op : Op) (pos : Nat) : Draft γ :=
  match x.slot? entry with
  | some slot => ⟨x.calls.modify slot fun i => i.extend op pos, x.slots⟩
  | none => ⟨x.calls ++ [⟨d, op, [pos]⟩], x.slots ++ [(entry, x.calls.length)]⟩

end Draft

namespace Table

variable {γ : Type}

/-- What the change at `pos` means to the entry found under `root`. -/
def addEntry (t : Table γ) (validate : Bool) (c : Change) (pos : Nat) (root : String)
    (x : Draft γ) (entry : Nat) : Draft γ :=
  match t.entries[entry]? with
  | none => x
  | some d =>
    if d.kind.validate ≠ validate then x
    else if d.kind.tree then x.cover entry d c.op pos
    else if root = c.key then x.push ⟨d, c.op, [pos]⟩
    else x

/-- What the change at `pos` means to all entries. -/
def addChange (t : Table γ) (validate : Bool) (x : Draft γ) (c : Change × Nat) : Draft γ :=
  (Key.ancestors c.1.key).foldl
    (fun x root => (t.index.positions root).foldl (t.addEntry validate c.1 c.2 root) x) x

/-- The calls for a change set, of the validating dependencies or of the others. -/
def commitVector (t : Table γ) (changes : List Change) (validate : Bool) : List (Invocation γ) :=
  (changes.zipIdx.foldl (t.addChange validate) .empty).calls.mergeSort Invocation.precedes

end Table

end PluginHost
