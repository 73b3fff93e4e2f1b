import PluginHost.Act
import PluginHost.ChangeView
import PluginHost.Log

/-!
# Traces

What a run leaves behind: the calls of hooks and callbacks, the log, and what plugins note
themselves, of any type `ν`.
-/

namespace PluginHost

/-- A call of a hook or callback, with what it is given. -/
inductive Call where
  | init (plugin : String)
  | start (plugin : String) (args : List String)
  | exit (plugin : String)
  | reset (plugin : String)
  | phase (plugin : String) (phase : Phase) (tx : Transaction)
  | callback (id : Nat) (plugin : String) (kind : Dependency.Kind) (key : String) (op : Op)
      (view : ChangeView)
deriving Repr, Inhabited

def Call.plugin : Call → String
  | .init p => p
  | .start p _ => p
  | .exit p => p
  | .reset p => p
  | .phase p _ _ => p
  | .callback _ p _ _ _ _ => p

/-- What is called: the symbol of a hook, or the sort and key of a dependency. -/
def Call.target : Call → String
  | .init _ => HookKind.init.symbol
  | .start _ _ => HookKind.start.symbol
  | .exit _ => HookKind.exit.symbol
  | .reset _ => HookKind.reset.symbol
  | .phase _ p _ => p.symbol
  | .callback _ _ kind key _ _ => kind.text ++ "@" ++ key

/-- What a plugin leaves in the trace: log records and notes. -/
inductive Note (ν : Type) where
  | log (r : Log.Record)
  | note (n : ν)

inductive Event (ν : Type) where
  | call (c : Call)
  | note (n : Note ν)

namespace Event

variable {ν : Type}

def call? : Event ν → Option Call
  | .call c => some c
  | .note _ => none

/-- What a reader of the trace sees of an event: notes, and the log up to a limit. -/
def shown? (limit : Option Log.Level) : Event ν → Option (Note ν)
  | .call _ => none
  | .note (.log r) => if r.passes limit then some (.log r) else none
  | .note (.note n) => some (.note n)

end Event

def calls {ν : Type} (trace : List (Event ν)) : List Call := trace.filterMap Event.call?

namespace Act

variable {σ ν : Type}

def log (level : Log.Level) (text : String) : Act σ (Event ν) Unit :=
  emit (.note (.log ⟨level, text⟩))

/-- Calls a hook or callback. -/
def perform (c : Call) (body : Act σ (Note ν) Outcome) :
    Act σ (Event ν) (Except HookError Unit) := do
  emit (.call c)
  log .debug ("Calling " ++ c.plugin ++ "." ++ c.target ++ "()")
  let outcome ← mapTrace .note body
  return outcome.result

end Act

end PluginHost
