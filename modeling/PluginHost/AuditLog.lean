import PluginHost.FileSystem
import PluginHost.Library

/-!
# The audit log

A plugin that writes a line to a file for every hook it gets and for every commit that concerns
the subtree `interfaces`.  It comes in two shapes with the same acts: built into the host
(`plugin`), where a failure keeps its wording, and as a library (`library`), where a failed hook
is only a status.  Both work on any state that holds a file system.
-/

namespace PluginHost

namespace AuditLog

variable {σ ν : Type}

def name : String := "audit-log"

/-- The file, in the directory of the application's plugins. -/
def fileName : String := "audit.log"

/-- The subtree that is watched. -/
def watched : String := "interfaces"

def priority : UInt16 := 100

/-! ## Acts -/

def append (files : Files σ) (cfg : Config) (line : String) : Act σ (Note ν) Outcome := fun s =>
  let path := cfg.backendDir.join (.ofString fileName)
  match files.append s path (Utf8.ofString (line ++ "\n")) with
  | (.ok (), s) => ⟨.done, s, []⟩
  | (.error fault, s) => ⟨.failed (.message (fault.text path)), s, []⟩

def startLine (args : List String) : String := "start " ++ " ".intercalate args

def phaseWord : Phase → String
  | .begin => "begin"
  | .complete => "complete"
  | .finish => "end"
  | .abort => "abort"

def phaseLine (ph : Phase) (tx : Transaction) : String := phaseWord ph ++ " " ++ Nat.repr tx.id

/-- The key that a view is about. -/
def viewKey (view : ChangeView) : String :=
  match view.targetKey with
  | some key => key
  | none => view.sourceKey.getD watched

def commitLine (op : Op) (view : ChangeView) : String :=
  op.text ++ " " ++ viewKey view ++ " (" ++ Nat.repr view.changes.length ++ " change(s))"

/-- The callback on the watched subtree. -/
def watch (files : Files σ) : Callback σ ν := fun cfg op view => do
  Act.emit (.log ⟨.debug, name ++ ": " ++ op.text ++ " " ++ viewKey view⟩)
  append files cfg (commitLine op view)

def request (files : Files σ) : Request (Callback σ ν) :=
  ⟨.subtree, priority, watched, none, watch files⟩

/-- The course of the init hook. -/
def setUp (files : Files σ) : InitHook σ ν Outcome := fun _ _ s =>
  .register [] (request files) fun answer =>
    match answer with
    | .ok _ => .finish [] s .done
    | .error e => .finish [] s (.failed (.message e.message))

/-! ## Built in -/

def plugin (files : Files σ) : Plugin σ ν where
  name := name
  path := none
  init := some (setUp files)
  start := some fun cfg args => append files cfg (startLine args)
  exit := some fun cfg _ => append files cfg "exit"
  reset := some fun cfg _ => append files cfg "reset"
  phase := fun ph => some fun cfg tx => append files cfg (phaseLine ph tx)

/-! ## As a library

An exported hook is given pointers, any of which may be null; without the pointers it needs it
does nothing and fails. -/

/-- The status of an outcome: zero, or minus one for a failure. -/
def status : Outcome → Int32
  | .done => 0
  | _ => -1

def exportInit (files : Files σ) (cfg : Option Config) (registrar : Option String) (s : σ) :
    Setup σ ν Int32 :=
  match cfg, registrar with
  | some cfg, some registrar => (setUp files cfg registrar s).map status
  | _, _ => .finish [] s (-1)

/-- An exported hook that needs the options only. -/
def exportHook (cfg : Option Config) (body : Config → Act σ (Note ν) Outcome) :
    Act σ (Note ν) Int32 :=
  match cfg with
  | none => pure (-1)
  | some cfg => do return status (← body cfg)

def exportStart (files : Files σ) (cfg : Option Config) (args : ArgVector) :
    Act σ (Note ν) Int32 :=
  exportHook cfg fun cfg => append files cfg (startLine args.toList)

def exportPhase (files : Files σ) (ph : Phase) (cfg : Option Config) (tx : Option Transaction) :
    Act σ (Note ν) Int32 :=
  match tx with
  | none => pure (-1)
  | some tx => exportHook cfg fun cfg => append files cfg (phaseLine ph tx)

def library (files : Files σ) : Library σ ν where
  init := some fun cfg registrar s => (exportInit files (some cfg) (some registrar) s).map .status
  start := some fun cfg args => .status <$> exportStart files (some cfg) args
  exit := some fun cfg _ => .status <$> exportHook (some cfg) fun cfg => append files cfg "exit"
  reset := some fun cfg _ => .status <$> exportHook (some cfg) fun cfg => append files cfg "reset"
  phase := fun ph => some fun cfg tx => .status <$> exportPhase files ph (some cfg) (some tx)

end AuditLog

end PluginHost
