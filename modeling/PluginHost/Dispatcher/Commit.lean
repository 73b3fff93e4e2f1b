import PluginHost.Dispatcher.Phase

/-!
# Committing a change set

`commit` leads a transaction through all its phases: begin, the validating callbacks, complete,
the committing callbacks, finish.  `validate` stops after complete.  A failure before the last
phase aborts the transaction on every plugin.

The committing callbacks run in two passes: deletions in reverse order, then additions and changes
in order.  When one fails, those that went well are undone, the last one first, each with the
inverse operation and the reversed view; a failure while undoing stops nothing.
-/

namespace PluginHost

namespace Dispatcher

variable {σ ν : Type}

/-- Logs the changes that a callback is about to see. -/
def logChanges (op : Op) : List Change → Act σ (Event ν) Unit
  | [] => pure ()
  | c :: cs => do
    if op ≠ .add then Act.log .debug ("-" ++ c.key)
    if op ≠ .delete then Act.log .debug ("+" ++ c.key)
    logChanges op cs

def callBack (cfg : Config) (dep : Dependency (Callback σ ν)) (op : Op) (view : ChangeView) :
    Act σ (Event ν) (Except TransactionError Unit) := do
  logChanges op view.changes
  let call : Call := .callback dep.id dep.plugin dep.kind dep.key op view
  match ← Act.perform call (dep.callback cfg op view) with
  | .ok () => return .ok ()
  | .error cause => return .error (.callback dep.plugin dep.kind dep.key op cause)

/-- Makes a call of the commit vector. -/
def invoke (cfg : Config) (tx : Transaction) (i : Invocation (Callback σ ν)) :
    Act σ (Event ν) (Except TransactionError Unit) :=
  callBack cfg i.dependency i.op (.ofInvocation tx i)

def undo (cfg : Config) (tx : Transaction) (i : Invocation (Callback σ ν)) :
    Act σ (Event ν) Unit := do
  match ← callBack cfg i.dependency i.op.invert (ChangeView.ofInvocation tx i).reversed with
  | .ok () => pure ()
  | .error e => Act.log .warn ("Error in rollback, trying to continue: " ++ e.message)

def undoAll (cfg : Config) (tx : Transaction) :
    List (Invocation (Callback σ ν)) → Act σ (Event ν) Unit
  | [] => pure ()
  | i :: rest => do
    undo cfg tx i
    undoAll cfg tx rest

/-- Undoes calls that were made, the last one first. -/
def revert (cfg : Config) (tx : Transaction) (applied : List (Invocation (Callback σ ν))) :
    Act σ (Event ν) Unit :=
  undoAll cfg tx applied.reverse

/-- One pass of calls, made in order; gives the calls made.  When one fails, the calls of this pass
are undone (`applied`), then those of the pass before (`earlier`). -/
def applyPass (cfg : Config) (tx : Transaction) (earlier applied : List (Invocation (Callback σ ν))) :
    List (Invocation (Callback σ ν)) →
      Act σ (Event ν) (Except TransactionError (List (Invocation (Callback σ ν))))
  | [] => pure (.ok applied)
  | i :: rest => do
    match ← invoke cfg tx i with
    | .error e =>
      revert cfg tx applied
      revert cfg tx earlier
      return .error e
    | .ok () => applyPass cfg tx earlier (applied ++ [i]) rest

/-- Makes the committing calls of a transaction and gives their number. -/
def applyVector (d : Dispatcher σ ν) (cfg : Config) (tx : Transaction) :
    Act σ (Event ν) (Except TransactionError Nat) := do
  let vector := d.table.commitVector tx.changes false
  let deletes := vector.filter fun i => i.op = .delete
  let updates := vector.filter fun i => i.op ≠ .delete
  match ← applyPass cfg tx [] [] deletes.reverse with
  | .error e => return .error e
  | .ok deleted =>
    match ← applyPass cfg tx deleted [] updates with
    | .error e => return .error e
    | .ok _ => return .ok vector.length

/-- Begin, the validating calls and complete; gives the number of calls. -/
def runValidation (d : Dispatcher σ ν) (cfg : Config) (tx : Transaction) :
    Act σ (Event ν) (Except TransactionError Nat × Transaction) := do
  let (begun, tx) ← d.begin cfg tx
  match begun with
  | .error e => return (.error e, tx)
  | .ok () =>
    let vector := d.table.commitVector tx.changes true
    match ← untilFailure (invoke cfg tx) vector with
    | .error e => return (.error e, tx.within .vetoed)
    | .ok () =>
      let (completed, tx) ← d.complete cfg (tx.within .validated)
      match completed with
      | .error e => return (.error e, tx)
      | .ok () => return (.ok vector.length, tx)

/-- Aborts a failed transaction. -/
def giveUp (d : Dispatcher σ ν) (cfg : Config) (tx : Transaction) (e : TransactionError) :
    Act σ (Event ν) Unit := do
  Act.log .error ("Transaction " ++ Nat.repr tx.id ++ " failed: " ++ e.message)
  match ← d.abort cfg tx with
  | (.ok _, _) => pure ()
  | (.error e, _) =>
    Act.log .warn ("Transaction " ++ Nat.repr tx.id ++ " could not be aborted: " ++ e.message)

/-- Leads a transaction through all phases. -/
def commit (d : Dispatcher σ ν) (cfg : Config) (tx : Transaction) :
    Act σ (Event ν) (Except TransactionError Summary) := do
  Act.log .info ("Commit transaction " ++ Nat.repr tx.id ++ " (" ++ tx.source ++ " -> " ++ tx.target
    ++ ", " ++ Nat.repr tx.changes.length ++ " change(s))")
  let (validated, tx) ← d.runValidation cfg tx
  match validated with
  | .error e =>
    d.giveUp cfg tx e
    return .error e
  | .ok checks =>
    match ← d.applyVector cfg tx with
    | .error e =>
      d.giveUp cfg tx e
      return .error e
    | .ok commits =>
      let (ended, tx) ← d.finish cfg tx
      match ended with
      | .error e =>
        Act.log .error ("Transaction " ++ Nat.repr tx.id ++ " failed in end: " ++ e.message)
        return .error e
      | .ok () =>
        Act.log .info ("Transaction " ++ Nat.repr tx.id ++ " committed")
        return .ok (tx.summary (checks + commits))

/-- Leads a transaction through its phases up to complete. -/
def validate (d : Dispatcher σ ν) (cfg : Config) (tx : Transaction) :
    Act σ (Event ν) (Except TransactionError Summary) := do
  Act.log .info ("Validate transaction " ++ Nat.repr tx.id ++ " ("
    ++ Nat.repr tx.changes.length ++ " change(s))")
  let (validated, tx) ← d.runValidation cfg tx
  match validated with
  | .error e =>
    d.giveUp cfg tx e
    return .error e
  | .ok checks =>
    Act.log .info ("Transaction " ++ Nat.repr tx.id ++ " validated")
    return .ok (tx.summary checks)

end Dispatcher

end PluginHost
