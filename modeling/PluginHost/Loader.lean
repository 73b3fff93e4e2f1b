import PluginHost.Disk
import PluginHost.Dispatcher

/-!
# Finding and loading plugins

A loader looks for plugin files in its directories: regular files with its extension, in the
order of their names, the master plugin first.  The name of a plugin is the stem of its file.
-/

namespace PluginHost

/-- Where plugins are looked for, and which is loaded first. -/
structure Loader where
  dirs : List Path
  extension : String
  master : Option String
deriving DecidableEq, Repr, Inhabited

namespace Loader

def ofConfig (c : Config) : Loader := ⟨c.pluginDirs, c.pluginExtension, c.masterPlugin⟩

/-! ## Names -/

/-- The name of the plugin in a file: the stem of the file's name. -/
def pluginName? (p : Path) : Option String := p.stem?.bind Utf8.string?

def isMaster (l : Loader) (p : Path) : Bool :=
  match l.master, pluginName? p with
  | some m, some n => m = n
  | _, _ => false

def hasExtension (l : Loader) (p : Path) : Bool :=
  p.extension?.bind Utf8.string? = some l.extension

/-! ## Discovery -/

/-- The order of byte lists. -/
def bytesLe : List UInt8 → List UInt8 → Bool
  | [], _ => true
  | _ :: _, [] => false
  | a :: as, b :: bs => a < b || (a = b && bytesLe as bs)

/-- Moves the first path that is the master plugin to the front. -/
def masterFirst (l : Loader) (paths : List Path) : List Path :=
  match paths.find? l.isMaster with
  | none => paths
  | some m => m :: paths.erase m

/-- The plugin files among the entries of a directory. -/
def candidates (l : Loader) (dir : Path) (entries : List DirEntry) : List DirEntry :=
  entries.filter fun e => l.hasExtension (dir.join ⟨e.name⟩)

def DirEntry.isRegular (e : DirEntry) : Bool :=
  match e.file with
  | .ok true => true
  | _ => false

/-- The plugin files of a directory with the given entries, in load order. -/
def select (l : Loader) (dir : Path) (entries : List DirEntry) : List Path :=
  let regular := (l.candidates dir entries).filter DirEntry.isRegular
  let sorted := regular.mergeSort fun a b => bytesLe a.name b.name
  l.masterFirst (sorted.map fun e => dir.join ⟨e.name⟩)

variable {σ ν : Type}

/-- Logs the candidates that are passed over. -/
def logSkipped (dir : Path) : List DirEntry → Act σ (Event ν) Unit
  | [] => pure ()
  | e :: es => do
    let p := (dir.join ⟨e.name⟩).display
    match e.file with
    | .ok true => pure ()
    | .ok false => Act.log .debug ("Skipping non-file plugin candidate " ++ p)
    | .error cause =>
      Act.log .debug ("Skipping unreadable plugin candidate " ++ p ++ ": " ++ cause.text)
    logSkipped dir es

/-- The plugin files of a directory, in load order. -/
def discoverDir (l : Loader) (disk : Disk σ ν) (dir : Path) :
    Act σ (Event ν) (Except PluginError (List Path)) := do
  match disk.list (← Act.get) dir with
  | .error cause => return .error (.directory dir cause)
  | .ok entries =>
    logSkipped dir (l.candidates dir entries)
    let paths := l.select dir entries
    Act.log .debug
      ("Discovered " ++ Nat.repr paths.length ++ " plugin(s) in " ++ dir.display)
    return .ok paths

/-- The plugin files of several directories, in load order. -/
def discoverDirs (l : Loader) (disk : Disk σ ν) :
    List Path → Act σ (Event ν) (Except PluginError (List Path))
  | [] => pure (.ok [])
  | dir :: dirs => do
    match ← l.discoverDir disk dir with
    | .error e => return .error e
    | .ok paths =>
      match ← discoverDirs l disk dirs with
      | .error e => return .error e
      | .ok more => return .ok (paths ++ more)

/-- The plugin files of all directories of the loader, in load order. -/
def discover (l : Loader) (disk : Disk σ ν) : Act σ (Event ν) (Except PluginError (List Path)) :=
  l.discoverDirs disk l.dirs

/-! ## Loading -/

def hooksText (p : Plugin σ ν) : String :=
  "[" ++ ", ".intercalate (p.hooks.map HookKind.label) ++ "]"

def load (disk : Disk σ ν) (path : Path) :
    Act σ (Event ν) (Except PluginError (Plugin σ ν)) := do
  let name := (pluginName? path).getD path.display
  match disk.load (← Act.get) path with
  | .error cause => return .error (.load name path cause)
  | .ok lib =>
    let p := Plugin.ofLibrary name path lib
    Act.log .info ("Loaded plugin '" ++ name ++ "' from " ++ path.display ++ " (hooks: "
      ++ hooksText p ++ ")")
    return .ok p

end Loader

namespace Dispatcher

variable {σ ν : Type}

/-- Loads and registers plugins one after the other, up to the first failure. -/
def loadEach (d : Dispatcher σ ν) (disk : Disk σ ν) (cfg : Config) :
    List Path → Act σ (Event ν) (Except PluginError Unit × Dispatcher σ ν)
  | [] => pure (.ok (), d)
  | path :: paths => do
    match ← Loader.load disk path with
    | .error e =>
      Act.log .error e.message
      return (.error e, d)
    | .ok p =>
      let (result, d) ← d.register cfg p
      match result with
      | .error e => return (.error e, d)
      | .ok () => d.loadEach disk cfg paths

/-- Loads and registers plugins and gives the number registered. -/
def loadAll (d : Dispatcher σ ν) (disk : Disk σ ν) (cfg : Config) (paths : List Path) :
    Act σ (Event ν) (Except PluginError Nat × Dispatcher σ ν) := do
  let (result, d) ← d.loadEach disk cfg paths
  match result with
  | .error e => return (.error e, d)
  | .ok () =>
    Act.log .info (Nat.repr d.registry.size ++ " plugin(s) registered")
    return (.ok d.registry.size, d)

end Dispatcher

end PluginHost
