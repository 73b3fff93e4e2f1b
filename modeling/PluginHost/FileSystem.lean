import PluginHost.FileSystem.Error
import PluginHost.Path

/-!
# File systems

A file system is a list of absolute names, each with what is found there, and a working
directory.  The root is always a directory.  `locate` follows a path: every component but the
last must be a directory, links are followed up to a limit, and the last component may be missing.
A path that may make a file must not have a slash behind its last component.
-/

namespace PluginHost

/-- The names from the root down to a place. -/
abbrev Place : Type := List (List UInt8)

/-- What is found at a place.  A library is a link to a file that is known by a name and lies in none
of the places. -/
inductive FileNode where
  | file (content : List UInt8)
  | library (name : String)
  | directory
  | link (target : Path)
deriving DecidableEq, Repr, Inhabited

/-- A file system. -/
structure FileSystem where
  nodes : List (Place × FileNode)
  cwd : Place
deriving Repr, Inhabited

namespace FileSystem

/-! ## Places -/

def empty : FileSystem := ⟨[], []⟩

/-- What is found at a place. -/
def node? (fs : FileSystem) (place : Place) : Option FileNode :=
  if place = [] then some .directory else (fs.nodes.find? fun n => n.1 = place).map (·.2)

/-- Puts something at a place, instead of what was there. -/
def put (fs : FileSystem) (place : Place) (n : FileNode) : FileSystem :=
  if (fs.node? place).isSome then
    ⟨fs.nodes.map fun m => if m.1 = place then (place, n) else m, fs.cwd⟩
  else ⟨fs.nodes ++ [(place, n)], fs.cwd⟩

def children (fs : FileSystem) (place : Place) : List (List UInt8) :=
  fs.nodes.filterMap fun n => if n.1.dropLast = place then n.1.getLast? else none

/-! ## Following paths -/

/-- How many links a path may lead through. -/
def maxLinks : Nat := 40

/-- The longest name of a file, in bytes. -/
def maxName : Nat := 255

/-- The longest path, in bytes. -/
def maxPath : Nat := 4095

/-- Where a path starts. -/
def origin (here : Place) (p : Path) : Place := if p.isAbsolute then [] else here

/-- What a path is followed for: something that is there, or a file that is made if it is missing. -/
inductive Purpose where
  | use
  | make
deriving DecidableEq, Repr, Inhabited

/-- Whether nothing but slashes is left of a path. -/
def onlySlashes (rest : List (List UInt8)) : Bool := !rest.isEmpty && rest.all List.isEmpty

/-- Goes from `here` along components, with `jump` to go on from where a link leads. -/
def steps (fs : FileSystem) (purpose : Purpose)
    (jump : Place → List (List UInt8) → Except IoError Place) :
    Place → List (List UInt8) → Except IoError Place
  | here, [] => .ok here
  | here, c :: rest =>
    match fs.node? here with
    | none => .error .notFound
    | some .directory =>
      if c = [] ∨ c = [Path.point] then fs.steps purpose jump here rest
      else if c = [Path.point, Path.point] then fs.steps purpose jump here.dropLast rest
      else if purpose = .make ∧ onlySlashes rest then .error .isDirectory
      else if maxName < c.length then .error .nameTooLong
      else
        match fs.node? (here ++ [c]) with
        | none => if rest.isEmpty then .ok (here ++ [c]) else .error .notFound
        | some (.link target) =>
          jump (origin here target) (Path.split Path.slash target.bytes ++ rest)
        | some (.library _) => jump (here ++ [c]) rest
        | some _ => fs.steps purpose jump (here ++ [c]) rest
    | some _ => .error .notDirectory

/-- Goes from `here` along components; so many links may be followed. -/
def walk (fs : FileSystem) (purpose : Purpose) :
    Nat → Place → List (List UInt8) → Except IoError Place
  | 0 => fs.steps purpose fun _ _ => .error .tooManyLinks
  | links + 1 => fs.steps purpose (fs.walk purpose links)

/-- The place that a path leads to. -/
def locate (fs : FileSystem) (purpose : Purpose) (p : Path) : Except IoError Place :=
  if 0 ∈ p.bytes then .error .zeroInName
  else if p.bytes = [] then .error .notFound
  else if maxPath < p.bytes.length then .error .nameTooLong
  else fs.walk purpose maxLinks (origin fs.cwd p) (Path.split Path.slash p.bytes)

def follow (fs : FileSystem) (p : Path) : Except IoError FileNode :=
  match fs.locate .use p with
  | .error e => .error e
  | .ok place =>
    match fs.node? place with
    | none => .error .notFound
    | some n => .ok n

/-! ## Using files -/

def isFile (fs : FileSystem) (p : Path) : Except IoError Bool :=
  match fs.follow p with
  | .error e => .error e
  | .ok (.file _) => .ok true
  | .ok (.library _) => .ok true
  | .ok _ => .ok false

def readText (fs : FileSystem) (p : Path) : Except IoError String :=
  match fs.follow p with
  | .error e => .error e
  | .ok (.file content) =>
    match Utf8.string? content with
    | some s => .ok s
    | none => .error .notText
  | .ok (.library _) => .error .notText
  | .ok .directory => .error .isDirectory
  | .ok (.link _) => .error .tooManyLinks

def list (fs : FileSystem) (p : Path) : Except IoError (List (List UInt8)) :=
  match fs.locate .use p with
  | .error e => .error e
  | .ok place =>
    match fs.node? place with
    | none => .error .notFound
    | some .directory => .ok (fs.children place)
    | some _ => .error .notDirectory

/-- Adds bytes to the end of a file, which is made if it is missing. -/
def append (fs : FileSystem) (p : Path) (bytes : List UInt8) : Except IoError FileSystem :=
  match fs.locate .make p with
  | .error e => .error e
  | .ok place =>
    match fs.node? place with
    | none => .ok (fs.put place (.file bytes))
    | some (.file content) => .ok (fs.put place (.file (content ++ bytes)))
    | some .directory => .error .isDirectory
    | some (.library _) => .ok fs
    | some (.link _) => .error .tooManyLinks

/-! ## Laying out -/

/-- Makes the directories along components, as far as they are missing. -/
def makeDirs (fs : FileSystem) : Place → List (List UInt8) → FileSystem × Place
  | here, [] => (fs, here)
  | here, c :: rest =>
    match fs.walk .use maxLinks here [c] with
    | .error _ => (fs, here)
    | .ok place =>
      let fs := if (fs.node? place).isSome then fs else fs.put place .directory
      fs.makeDirs place rest

/-- Makes a directory, and those above it. -/
def makeDir (fs : FileSystem) (p : Path) : FileSystem :=
  (fs.makeDirs (origin fs.cwd p) p.components).1

/-- Puts something at a path, with the directories above it.  A file goes where links lead. -/
def create (fs : FileSystem) (p : Path) (n : FileNode) : FileSystem :=
  let (fs, dir) := fs.makeDirs (origin fs.cwd p) p.components.dropLast
  match p.components.getLast? with
  | none => fs
  | some name =>
    match n with
    | .file _ =>
      match fs.walk .make maxLinks dir [name] with
      | .ok place => fs.put place n
      | .error _ => fs
    | .directory => (fs.makeDirs dir [name]).1
    | _ => fs.put (dir ++ [name]) n

end FileSystem

/-! ## As part of a state -/

/-- A file system as part of a state.  The system may take only so many of the bytes that are
written to an open file; `short` tells how many, and why no more. -/
structure Files (σ : Type) where
  read : σ → FileSystem
  write : σ → FileSystem → σ
  short : σ → Path → List UInt8 → Option (Nat × IoError)

/-- Why bytes are not at the end of a file. -/
inductive AppendFault where
  | opening (cause : IoError)
  | writing (cause : IoError)
deriving DecidableEq, Repr, Inhabited

def AppendFault.text (p : Path) : AppendFault → String
  | .opening cause => "cannot open " ++ p.display ++ ": " ++ cause.text
  | .writing cause => "cannot write " ++ p.display ++ ": " ++ cause.text

/-- Opens a file, which is made if it is missing, and adds bytes to its end.  What was taken of them
before a fault stays. -/
def Files.append {σ : Type} (files : Files σ) (s : σ) (p : Path) (bytes : List UInt8) :
    Except AppendFault Unit × σ :=
  let short := files.short s p bytes
  let taken := short.elim bytes fun cut => bytes.take cut.1
  match (files.read s).append p taken with
  | .error cause => (.error (.opening cause), s)
  | .ok fs => (short.elim (.ok ()) fun cut => .error (.writing cut.2), files.write s fs)

end PluginHost
