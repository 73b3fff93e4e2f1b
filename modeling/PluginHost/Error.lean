import PluginHost.Config.Error
import PluginHost.Plugin

/-!
# Errors of the host

The errors of all parts of the host in one type.  An error of a component names the stage and the
component and holds the error it comes from; a call at the wrong time is refused.
-/

namespace PluginHost

inductive Stage where
  | bootstrap
  | setUp
  | start
  | reset
  | preCheck
  | shutdown
deriving DecidableEq, Repr, Inhabited

def Stage.text : Stage → String
  | .bootstrap => "Bootstrap"
  | .setUp => "Initialize"
  | .start => "Start"
  | .reset => "Reset"
  | .preCheck => "RunPreCheck"
  | .shutdown => "Shutdown"

def Stage.ofText? (s : String) : Option Stage :=
  [bootstrap, setUp, start, reset, preCheck, shutdown].find? fun x => x.text = s

/-- Why a call comes at the wrong time. -/
inductive Refusal where
  | alreadySetUp
  | notSetUp
  | notReadyToStart
deriving DecidableEq, Repr, Inhabited

/-- The stage at which a call is refused. -/
def Refusal.stage : Refusal → Stage
  | .alreadySetUp => .preCheck
  | .notSetUp => .preCheck
  | .notReadyToStart => .start

def Refusal.text : Refusal → String
  | .alreadySetUp => "Backend already initialized"
  | .notSetUp => "Backend is not initialized"
  | .notReadyToStart => "Backend must be initialized and not yet started"

inductive HostError where
  | plugin (e : PluginError)
  | registration (e : RegistrationError)
  | transaction (e : TransactionError)
  | config (e : ConfigError)
  | component (stage : Stage) (name : String) (source : HostError)
  | refused (r : Refusal)
  | other (text : String)
deriving Repr, Inhabited

namespace HostError

def stageMessage (stage : Stage) (text : String) : String :=
  "Kernel lifecycle error during " ++ stage.text ++ ": " ++ text

def message : HostError → String
  | .plugin e => "Plugin system error: " ++ e.message
  | .registration e => "Dependency error: " ++ e.message
  | .transaction e => "Transaction error: " ++ e.message
  | .config e => "Configuration error: " ++ e.message
  | .component stage name source =>
    stageMessage stage ("Component '" ++ name ++ "' failed: " ++ source.message)
  | .refused r => stageMessage r.stage r.text
  | .other text => "Error: " ++ text

/-- The wordings of the errors behind an error, the nearest first. -/
def chain : HostError → List String
  | .plugin e =>
    e.message :: match e with
      | .load _ _ (.library _) => []
      | .load _ _ cause => [cause.text]
      | .duplicate _ => []
      | .directory _ cause => [cause.text]
      | .hook _ _ cause => [cause.text]
  | .registration e => [e.message]
  | .transaction e => e.message :: (e.cause?.map HookError.text).toList
  | .config e =>
    e.message :: match e with
      | .io _ cause => [cause.text]
      | .unsupported _ => []
      | .decode fault => [fault.text]
      | .encode _ reason => [reason]
  | .component _ _ source => source.message :: source.chain
  | .refused _ => []
  | .other _ => []

end HostError

end PluginHost
