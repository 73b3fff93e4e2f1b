import PluginHost.Artifact
import PluginHost.Disk

/-!
# The state that plugins share

A file system, shared data, what phase hooks carry over from one phase of a transaction to the
next, and how often each scripted hook was called.
-/

namespace PluginHost

/-- Whose calls are counted: a hook of the plugin with a serial number, or a callback. -/
inductive Counter where
  | hook (serial : Nat) (kind : HookKind)
  | callback (serial : Nat)
deriving DecidableEq, Repr, Inhabited

/-- The state that plugins share. -/
structure World where
  files : FileSystem
  data : SharedData
  carried : List (Nat × Datum)
  counts : List (Counter × Nat)
  nextSerial : Nat
deriving Repr, Inhabited

namespace World

/-- The state at the start, with a file system. -/
def ofFiles (fs : FileSystem) : World := ⟨fs, .empty, [], [], 0⟩

/-- The file system in the state.  It takes all that is written. -/
def filesLens : Files World :=
  ⟨World.files, fun w fs => ⟨fs, w.data, w.carried, w.counts, w.nextSerial⟩, fun _ _ _ => none⟩

def disk {ν : Type} : Disk World ν := filesLens.disk (Artifact.library? filesLens)

def withData (w : World) (d : SharedData) : World := ⟨w.files, d, w.carried, w.counts, w.nextSerial⟩

/-! ## Carried data -/

def carried? (w : World) (tx : Nat) : Option Datum :=
  (w.carried.find? fun e => e.1 = tx).map (·.2)

/-- The state in which a transaction carries nothing. -/
def dropCarried (w : World) (tx : Nat) : World :=
  ⟨w.files, w.data, w.carried.filter fun e => e.1 ≠ tx, w.counts, w.nextSerial⟩

/-- The state in which a transaction carries a datum. -/
def carry (w : World) (tx : Nat) (x : Datum) : World :=
  ⟨w.files, w.data, (tx, x) :: (w.dropCarried tx).carried, w.counts, w.nextSerial⟩

/-! ## Counts -/

/-- A serial number that was not given before. -/
def takeSerial (w : World) : Nat × World :=
  (w.nextSerial, ⟨w.files, w.data, w.carried, w.counts, w.nextSerial + 1⟩)

/-- Counts a call and gives its number, from one. -/
def countCall (w : World) (c : Counter) : Nat × World :=
  let n := ((w.counts.find? fun e => e.1 = c).map (·.2)).getD 0 + 1
  (n, ⟨w.files, w.data, w.carried, (c, n) :: w.counts.filter fun e => e.1 ≠ c, w.nextSerial⟩)

end World

end PluginHost
