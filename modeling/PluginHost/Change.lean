import PluginHost.Json.Value

/-!
# Changes

A change adds, deletes or changes one key, with the values under the key before and after.
A change set is a list of changes with the names of the databases they lead from and to.
-/

namespace PluginHost

/-- What is done to a key. -/
inductive Op where
  | add
  | delete
  | change
deriving DecidableEq, Repr, Inhabited

namespace Op

def text : Op → String
  | .add => "ADD"
  | .delete => "DELETE"
  | .change => "CHANGE"

/-- The operation that undoes this one. -/
def invert : Op → Op
  | .add => .delete
  | .delete => .add
  | .change => .change

/-- The operation that sums up two: their common one, or a change. -/
def merge (a b : Op) : Op := if a = b then a else .change

@[simp] theorem invert_invert (op : Op) : op.invert.invert = op := by cases op <;> rfl

theorem merge_invert (a b : Op) : (a.merge b).invert = a.invert.merge b.invert := by
  cases a <;> cases b <;> rfl

end Op

/-- Values stored under one key, sorted by name. -/
abbrev Values := List (String × Json.Value)

structure Change where
  op : Op
  key : String
  source : Values
  target : Values
deriving Repr, Inhabited

namespace Change

def added (key : String) (target : Values) : Change := ⟨.add, key, [], target⟩

def deleted (key : String) (source : Values) : Change := ⟨.delete, key, source, []⟩

def changed (key : String) (source target : Values) : Change := ⟨.change, key, source, target⟩

/-- Equality of changes, values compared as JSON. -/
def same (a b : Change) : Bool :=
  a.op = b.op && a.key = b.key && Json.Value.sameMembers a.source b.source
    && Json.Value.sameMembers a.target b.target

end Change

/-- Changes with the databases they lead from and to, where named. -/
structure ChangeSet where
  source : Option String
  target : Option String
  changes : List Change
deriving Repr, Inhabited

def Change.sameList : List Change → List Change → Bool
  | [], [] => true
  | a :: as, b :: bs => a.same b && sameList as bs
  | _, _ => false

def ChangeSet.same (a b : ChangeSet) : Bool :=
  a.source = b.source && a.target = b.target && Change.sameList a.changes b.changes

end PluginHost
