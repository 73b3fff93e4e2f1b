import PluginHost.Backend
import PluginHost.Change.Text
import PluginHost.CommandLine.Args
import PluginHost.Config.Load

/-!
# The command line

A command makes a backend, does its work, and shuts the backend down in any case.  What it prints
is a list of lines; an error that ends it is reported instead of the last line.

    run     starts all plugins; what it waits for afterwards is left out
    list    shows them with their hooks and dependencies
    commit  commits or validates a change set from a file, which is read before any plugin is loaded
-/

namespace PluginHost.CommandLine

/-- The outside world as a command uses it: plugins on disk, and text files. -/
structure Outside (σ ν : Type) where
  disk : Disk σ ν
  read : σ → Path → Except IoError String

/-- What a command leaves: the lines it printed, and the error that ended it. -/
structure Report where
  lines : List String
  error : Option HostError

/-! ## Configuration -/

def Options.over (o : Options) (c : Config) : Config :=
  { c with
    backendDir := (o.pluginDir.map Path.ofString).getD c.backendDir
    systemDir := (o.systemDir.map Path.ofString).or c.systemDir
    masterPlugin := o.master.or c.masterPlugin }

def Options.configuration {σ : Type} (o : Options) (read : σ → Path → Except IoError String)
    (s : σ) : Except ConfigError Config :=
  match o.config with
  | none => .ok (o.over .standard)
  | some file => (Config.load (read s) (.ofString file)).map o.over

def Command.configure (c : Command) (cfg : Config) : Config :=
  match c with
  | .run _ true _ => { cfg with resetOnStart := true }
  | _ => cfg

/-! ## Commands -/

variable {σ ν : Type}

/-- What the work of a command comes to: how it ends, the lines printed, and the backend. -/
structure Work (σ ν : Type) where
  result : Except HostError Unit
  lines : List String
  backend : Backend σ ν

def runPlugins (out : Outside σ ν) (args : List String) (b : Backend σ ν) :
    Act σ (Event ν) (Work σ ν) := do
  let (result, b) ← b.run out.disk args
  match result with
  | .error e => return ⟨.error e, [], b⟩
  | .ok () =>
    let count := b.manager.dispatcher.registry.size
    return ⟨.ok (), ["Backend started with " ++ Nat.repr count ++ " plugin(s)"], b⟩

def pluginLines (p : PluginInfo) : List String :=
  let place := (p.path.map Path.display).getD "static"
  ["  - " ++ p.name ++ " (" ++ place ++ ")",
    "      hooks: " ++ ", ".intercalate (p.hooks.map HookKind.symbol)]
    ++ p.dependencies.map fun d =>
      "      " ++ d.kind.text ++ " " ++ d.key ++ " (priority " ++ Nat.repr d.priority.toNat ++ ")"

def listPlugins (out : Outside σ ν) (b : Backend σ ν) : Act σ (Event ν) (Work σ ν) := do
  let (result, b) ← b.setUp out.disk
  match result with
  | .error e => return ⟨.error e, [], b⟩
  | .ok () =>
    match b.manager.info with
    | [] => return ⟨.ok (), ["No plugins loaded."], b⟩
    | plugins => return ⟨.ok (), "Loaded plugins:" :: plugins.flatMap pluginLines, b⟩

def summaryLine (s : Summary) : String :=
  "Transaction " ++ Nat.repr s.id ++ " " ++ s.state.text ++ ": " ++ Nat.repr s.changes
    ++ " change(s), " ++ Nat.repr s.callbacks ++ " callback(s)"

def readChanges (out : Outside σ ν) (s : σ) (file : Path) : Except HostError ChangeSet :=
  match out.read s file with
  | .error e => .error (.other ("Cannot read change set '" ++ file.display ++ "': " ++ e.text))
  | .ok text =>
    match ChangeSet.ofText text with
    | .error p => .error (.other ("Invalid change set '" ++ file.display ++ "': " ++ p.message))
    | .ok changes => .ok changes

def commitFile (out : Outside σ ν) (file : Path) (validateOnly : Bool) (b : Backend σ ν) :
    Act σ (Event ν) (Work σ ν) := do
  match readChanges out (← Act.get) file with
  | .error e => return ⟨.error e, [], b⟩
  | .ok changes =>
    let (result, b) ← b.run out.disk []
    match result with
    | .error e => return ⟨.error e, [], b⟩
    | .ok () =>
      let (result, b) ← if validateOnly then b.validate changes else b.commit changes
      match result with
      | .error e => return ⟨.error e, [], b⟩
      | .ok summary => return ⟨.ok (), [summaryLine summary], b⟩

/-- Does the work of a command.  A run that is not made just once waits for a signal when its plugins
are started; the wait is no work and left out, so `once` makes no difference here. -/
def Command.work (out : Outside σ ν) (b : Backend σ ν) :
    Command → Act σ (Event ν) (Work σ ν)
  | .run _ _ args => runPlugins out args b
  | .list => listPlugins out b
  | .commit file validateOnly => commitFile out (.ofString file) validateOnly b

def Command.execute (c : Command) (out : Outside σ ν) (cfg : Config) :
    Act σ (Event ν) Report := do
  let b ← Backend.create (c.configure cfg)
  let w ← c.work out b
  let _ ← w.backend.shutdown
  match w.result with
  | .ok () => return ⟨w.lines ++ ["Backend stopped"], none⟩
  | .error e => return ⟨w.lines, some e⟩

/-! ## Programs -/

/-- What a program leaves: its exit code and its two outputs. -/
structure Exit where
  code : Nat
  stdout : String
  stderr : String
deriving DecidableEq, Repr, Inhabited

def unlines (lines : List String) : String := String.join (lines.map fun l => l ++ "\n")

def Exit.failure (lines : List String) (message : String) : Exit :=
  ⟨1, unlines lines, "Error: " ++ message ++ "\n"⟩

def Exit.ofReport (r : Report) : Exit :=
  match r.error with
  | none => ⟨0, unlines r.lines, ""⟩
  | some e => .failure r.lines e.message

/-- The whole program: arguments in, exit code and outputs out. -/
def program (out : Outside σ ν) (args : List String) : Act σ (Event ν) Exit := do
  match Request.of? args with
  | none => return ⟨2, "", "error: invalid arguments\n"⟩
  | some .version => return ⟨0, unlines [Backend.title ++ " " ++ Backend.version], ""⟩
  | some (.command o c) =>
    match o.configuration out.read (← Act.get) with
    | .error e => return .failure [] (HostError.config e).message
    | .ok cfg => return .ofReport (← c.execute out cfg)

end PluginHost.CommandLine
