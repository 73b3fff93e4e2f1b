import PluginHost.Dispatcher

/-!
# Phases of a transaction

Each phase calls its hook on every plugin.  Begin, complete and finish stop at the first failure;
abort calls all.  A phase at the wrong time is refused before any plugin is called.

    begin     idle                                  → begun, or vetoed
    complete  begun, validated                      → completed, or vetoed
    finish    completed                             → ended, or completed still
    abort     begun, validated, completed, vetoed   → aborted
-/

namespace PluginHost

namespace Dispatcher

variable {σ ν : Type}

def callPhase (cfg : Config) (tx : Transaction) (ph : Phase) (p : Plugin σ ν) :
    Act σ (Event ν) (Except HookError Unit) :=
  match p.phase ph with
  | none => pure (.ok ())
  | some hook => Act.perform (.phase p.name ph tx) (hook cfg tx)

/-- Calls the hook of a phase on one plugin, whose failure is a veto. -/
def askPhase (cfg : Config) (tx : Transaction) (ph : Phase) (p : Plugin σ ν) :
    Act σ (Event ν) (Except TransactionError Unit) := do
  match ← callPhase cfg tx ph p with
  | .ok () => return .ok ()
  | .error cause =>
    Act.log .warn ("Transaction " ++ Nat.repr tx.id ++ ": plugin '" ++ p.name ++ "' vetoed "
      ++ ph.symbol ++ ": " ++ cause.text)
    return .error (.phaseVeto ph p.name cause)

/-- Calls the hook of a phase on every plugin, up to the first veto. -/
def runPhase (d : Dispatcher σ ν) (cfg : Config) (tx : Transaction) (ph : Phase) :
    Act σ (Event ν) (Except TransactionError Unit) :=
  untilFailure (askPhase cfg tx ph) (d.registry.withHook (.phase ph))

def begin (d : Dispatcher σ ν) (cfg : Config) (tx : Transaction) :
    Act σ (Event ν) (Except TransactionError Unit × Transaction) := do
  if tx.state ∈ Phase.begin.allowed then
    let tx := tx.within .begun
    match ← d.runPhase cfg tx .begin with
    | .ok () => return (.ok (), tx)
    | .error e => return (.error e, tx.within .vetoed)
  else return (.error (.invalidState .begin tx.state), tx)

/-- Closes the validation of a transaction. -/
def complete (d : Dispatcher σ ν) (cfg : Config) (tx : Transaction) :
    Act σ (Event ν) (Except TransactionError Unit × Transaction) := do
  if tx.state ∈ Phase.complete.allowed then
    match ← d.runPhase cfg tx .complete with
    | .ok () => return (.ok (), tx.within .completed)
    | .error e => return (.error e, tx.within .vetoed)
  else return (.error (.invalidState .complete tx.state), tx)

/-- Ends a transaction; after a veto it may be tried again. -/
def finish (d : Dispatcher σ ν) (cfg : Config) (tx : Transaction) :
    Act σ (Event ν) (Except TransactionError Unit × Transaction) := do
  if tx.state ∈ Phase.finish.allowed then
    match ← d.runPhase cfg tx .finish with
    | .ok () => return (.ok (), tx.within .ended)
    | .error e => return (.error e, tx)
  else return (.error (.invalidState .finish tx.state), tx)

def abortPlugin (cfg : Config) (tx : Transaction) (p : Plugin σ ν) :
    Act σ (Event ν) (Except HookError Unit) := do
  match ← callPhase cfg tx .abort p with
  | .ok () => return .ok ()
  | .error cause =>
    Act.log .warn ("Transaction " ++ Nat.repr tx.id ++ ": plugin '" ++ p.name ++ "' failed in "
      ++ Phase.abort.symbol ++ ": " ++ cause.text)
    return .error cause

/-- Aborts a transaction on every plugin and gives the number of failures. -/
def abort (d : Dispatcher σ ν) (cfg : Config) (tx : Transaction) :
    Act σ (Event ν) (Except TransactionError Nat × Transaction) := do
  if tx.state ∈ Phase.abort.allowed then
    let failures ← countFailures (abortPlugin cfg tx) (d.registry.withHook (.phase .abort))
    return (.ok failures, tx.within .aborted)
  else return (.error (.invalidState .abort tx.state), tx)

end Dispatcher

end PluginHost
