/-!
# Hooks

A plugin may implement eight hooks: four for its own life and one for each phase of a
transaction.  A hook succeeds, fails or panics; a panic counts as a failure.
-/

namespace PluginHost

/-- The phases of a transaction that plugins take part in. -/
inductive Phase where
  | begin
  | complete
  | finish
  | abort
deriving DecidableEq, Repr, Inhabited

inductive HookKind where
  | init
  | start
  | exit
  | reset
  | phase (p : Phase)
deriving DecidableEq, Repr, Inhabited

namespace HookKind

/-- All hooks, in the order of a plugin's life. -/
def all : List HookKind :=
  [.init, .start, .exit, .reset, .phase .begin, .phase .complete, .phase .finish, .phase .abort]

/-- The symbol under which a library exports the hook. -/
def symbol : HookKind → String
  | .init => "plugin_init"
  | .start => "plugin_start"
  | .exit => "plugin_exit"
  | .reset => "plugin_reset"
  | .phase .begin => "transaction_begin"
  | .phase .complete => "transaction_complete"
  | .phase .finish => "transaction_end"
  | .phase .abort => "transaction_abort"

def label : HookKind → String
  | .init => "Init"
  | .start => "Start"
  | .exit => "Exit"
  | .reset => "Reset"
  | .phase .begin => "Begin"
  | .phase .complete => "Complete"
  | .phase .finish => "End"
  | .phase .abort => "Abort"

/-- The hook of a short name, in small letters. -/
def ofWord? (w : String) : Option HookKind :=
  all.find? fun k => k.label.toList.map Char.toLower = w.toList

def isPhase : HookKind → Bool
  | .phase _ => true
  | _ => false

end HookKind

def Phase.symbol (p : Phase) : String := (HookKind.phase p).symbol

/-- What a failed hook or callback reports. -/
inductive HookError where
  | status (code : Int32)
  | message (text : String)
  | panicked (text : String)
deriving DecidableEq, Repr, Inhabited

def HookError.text : HookError → String
  | .status code => "returned status " ++ Int.repr code.toInt
  | .message text => text
  | .panicked text => "panicked: " ++ text

/-- What a panic carries: a text, or something that is none. -/
inductive Payload where
  | text (s : String)
  | other
deriving DecidableEq, Repr, Inhabited

def Payload.message : Payload → String
  | .text s => s
  | .other => "Unknown panic reason"

/-- How a hook or callback comes back. -/
inductive Outcome where
  | done
  | failed (e : HookError)
  | panicked (p : Payload)
deriving DecidableEq, Repr, Inhabited

namespace Outcome

/-- The result of a call: a panic is a failure too. -/
def result : Outcome → Except HookError Unit
  | .done => .ok ()
  | .failed e => .error e
  | .panicked p => .error (.panicked p.message)

/-- The outcome of a status: a negative one is a failure. -/
def ofStatus (code : Int32) : Outcome := if code < 0 then .failed (.status code) else .done

end Outcome

/-- How an exported hook comes back: with a status, or by a panic that unwinds into the host. -/
inductive Exported where
  | status (code : Int32)
  | panicked (p : Payload)
deriving DecidableEq, Repr, Inhabited

/-- A panic is the same on both sides of the boundary. -/
def Exported.outcome : Exported → Outcome
  | .status code => .ofStatus code
  | .panicked p => .panicked p

end PluginHost
