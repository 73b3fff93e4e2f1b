import PluginHost.Dependency.CommitVector
import PluginHost.Transaction

/-!
# What a callback sees

The view of a transaction that a callback gets: the databases, the changes it covers, and the key
and values of its own key before and after.  What lies before is shown unless the key is added,
what comes after unless it is deleted.  `reversed` is the view of undoing the same changes.
-/

namespace PluginHost

/-- The view of one call. -/
structure ChangeView where
  sourceDb : String
  targetDb : String
  sourceKey : Option String
  targetKey : Option String
  sourceValues : Option Values
  targetValues : Option Values
  arg : Option Datum
  changes : List Change
deriving Repr, Inhabited

namespace ChangeView

/-- The view of a transaction for one call.  Values are those of the first covered change to the
dependency's own key. -/
def ofInvocation {γ : Type} (tx : Transaction) (i : Invocation γ) : ChangeView :=
  let d := i.dependency
  let changes := i.changes.filterMap fun pos => tx.changes[pos]?
  let own := changes.find? fun c => c.key = d.key
  { sourceDb := tx.source
    targetDb := tx.target
    sourceKey := if i.op = .add then none else some d.key
    targetKey := if i.op = .delete then none else some d.key
    sourceValues := if i.op = .add then none else own.map Change.source
    targetValues := if i.op = .delete then none else own.map Change.target
    arg := d.arg
    changes := changes }

/-- The same changes seen from the other side. -/
def reversed (v : ChangeView) : ChangeView :=
  { sourceDb := v.targetDb
    targetDb := v.sourceDb
    sourceKey := v.targetKey
    targetKey := v.sourceKey
    sourceValues := v.targetValues
    targetValues := v.sourceValues
    arg := v.arg
    changes := v.changes }

end ChangeView

end PluginHost
