import PluginHost.FileSystem
import PluginHost.Library

/-!
# Disks

What a loader uses of the state: directories to list, and libraries to open.  A file system gives
both, if it is told which libraries its files hold.
-/

namespace PluginHost

/-- An entry of a directory: its name, and whether it is a regular file, if that can be told. -/
structure DirEntry where
  name : List UInt8
  file : Except IoError Bool

/-- Directories and libraries, as they are in a state. -/
structure Disk (σ ν : Type) where
  list : σ → Path → Except IoError (List DirEntry)
  load : σ → Path → Except LoadFault (Library σ ν)

namespace Files

variable {σ ν : Type}

def entries (files : Files σ) (s : σ) (path : Path) : Except IoError (List DirEntry) :=
  let fs := files.read s
  match fs.list path with
  | .error e => .error e
  | .ok names => .ok (names.map fun n => ⟨n, fs.isFile (path.join ⟨n⟩)⟩)

/-- Opens a library.  A path without a slash is looked for in the directories of the system,
where there is none of these; the empty path is the host itself, which exports no hook. -/
def openLibrary (files : Files σ) (library? : String → Option (Library σ ν)) (s : σ) (path : Path) :
    Except LoadFault (Library σ ν) :=
  if path.bytes = [] then .ok .empty
  else if Path.slash ∉ path.bytes then
    .error (.library (path.display ++ ": cannot open shared object file"))
  else
    match (files.read s).follow path with
    | .error e => .error (.library (path.display ++ ": cannot open shared object file: " ++ e.text))
    | .ok (.library name) =>
      match library? name with
      | some lib => .ok lib
      | none => .error (.library (path.display ++ ": invalid library"))
    | .ok _ => .error (.library (path.display ++ ": invalid library"))

/-- The disk that a file system is, with libraries of these names. -/
def disk (files : Files σ) (library? : String → Option (Library σ ν)) : Disk σ ν :=
  ⟨files.entries, files.openLibrary library?⟩

end Files

end PluginHost
