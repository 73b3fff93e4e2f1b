import PluginHost.Change
import PluginHost.Config
import PluginHost.Dependency
import PluginHost.Hook

/-!
# Transactions

A transaction leads a change set through the phases.  Its state says which phase may come next;
a phase at the wrong time is refused.
-/

namespace PluginHost

/-- Where a transaction is in its phases. -/
inductive Transaction.State where
  | idle
  | begun
  | validated
  | completed
  | ended
  | vetoed
  | aborted
deriving DecidableEq, Repr, Inhabited

def Transaction.State.text : Transaction.State → String
  | .idle => "idle"
  | .begun => "begun"
  | .validated => "validated"
  | .completed => "completed"
  | .ended => "ended"
  | .vetoed => "vetoed"
  | .aborted => "aborted"

def Transaction.State.ofText? (s : String) : Option Transaction.State :=
  [idle, begun, validated, completed, ended, vetoed, aborted].find? fun x => x.text = s

def Transaction.State.label : Transaction.State → String
  | .idle => "Idle"
  | .begun => "Begun"
  | .validated => "Validated"
  | .completed => "Completed"
  | .ended => "Ended"
  | .vetoed => "Vetoed"
  | .aborted => "Aborted"

structure Transaction where
  id : Nat
  source : String
  target : String
  changes : List Change
  state : Transaction.State
deriving Repr, Inhabited

namespace Transaction

def fresh (id : Nat) (source target : String) (changes : List Change) : Transaction :=
  ⟨id, source, target, changes, .idle⟩

/-- A new transaction over a change set, between the configured databases where it names none. -/
def ofChangeSet (id : Nat) (cfg : Config) (s : ChangeSet) : Transaction :=
  fresh id (s.source.getD cfg.runningDb) (s.target.getD cfg.candidateDb) s.changes

/-- The transaction in another state. -/
def within (tx : Transaction) (s : State) : Transaction :=
  ⟨tx.id, tx.source, tx.target, tx.changes, s⟩

end Transaction

/-- The states in which a phase may start. -/
def Phase.allowed : Phase → List Transaction.State
  | .begin => [.idle]
  | .complete => [.begun, .validated]
  | .finish => [.completed]
  | .abort => [.begun, .validated, .completed, .vetoed]

/-- Why a transaction fails. -/
inductive TransactionError where
  | phaseVeto (phase : Phase) (plugin : String) (cause : HookError)
  | callback (plugin : String) (kind : Dependency.Kind) (key : String) (op : Op) (cause : HookError)
  | invalidState (phase : Phase) (state : Transaction.State)
deriving DecidableEq, Repr, Inhabited

namespace TransactionError

def message : TransactionError → String
  | .phaseVeto phase plugin cause =>
    "Plugin '" ++ plugin ++ "' vetoed " ++ phase.symbol ++ ": " ++ cause.text
  | .callback plugin kind key op cause =>
    kind.text ++ " dependency of plugin '" ++ plugin ++ "' failed on '" ++ key ++ "' (" ++ op.text
      ++ "): " ++ cause.text
  | .invalidState phase state =>
    "Cannot run " ++ phase.symbol ++ " in transaction state " ++ state.text

/-- The plugin at fault, if any. -/
def plugin? : TransactionError → Option String
  | .phaseVeto _ plugin _ => some plugin
  | .callback plugin _ _ _ _ => some plugin
  | .invalidState _ _ => none

/-- The failure of a hook or callback behind a failed transaction. -/
def cause? : TransactionError → Option HookError
  | .phaseVeto _ _ cause => some cause
  | .callback _ _ _ _ cause => some cause
  | .invalidState _ _ => none

end TransactionError

/-- What a transaction that went well reports. -/
structure Summary where
  id : Nat
  state : Transaction.State
  changes : Nat
  callbacks : Nat
deriving DecidableEq, Repr, Inhabited

def Transaction.summary (tx : Transaction) (callbacks : Nat) : Summary :=
  ⟨tx.id, tx.state, tx.changes.length, callbacks⟩

end PluginHost
