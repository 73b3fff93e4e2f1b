import PluginHost.FileSystem
import PluginHost.Json.Value
import PluginHost.Number.Digits

/-!
# File trees as JSON

An entry of a file tree is an object with its `path`, and its `kind`:

    dir        a directory
    symlink    a symbolic link to its `target`
    artifact   a link to the library named by its `artifact`
    file       (or no kind) a file with the content `text`

Bytes that are no text stand in hexadecimal in `path_hex` and `hex`.
-/

namespace PluginHost.FileSystem

/-- The bytes that pairs of hexadecimal digits write. -/
def hexBytes : List Char → List UInt8
  | a :: b :: rest => UInt8.ofNat (Digits.toNat 16 [a, b]) :: hexBytes rest
  | _ => []

/-- The bytes written in a member, if there is such a member. -/
def bytesIn? (j : Json.Value) (name : String) : Option (List UInt8) :=
  (j.get? name).map fun _ => hexBytes (j.textIn name).toList

/-- What an entry puts in its place; `expand` is applied to targets and contents. -/
def nodeOfJson (expand : String → String) (j : Json.Value) : FileNode :=
  match j.textIn "kind" with
  | "dir" => .directory
  | "symlink" => .link (.ofString (expand (j.textIn "target")))
  | "artifact" => .library (j.textIn "artifact")
  | _ => .file ((bytesIn? j "hex").getD (Utf8.ofString (expand (j.textIn "text"))))

/-- The name of an entry below a directory. -/
def pathIn (expand : String → String) (dir : Path) (j : Json.Value) : Path :=
  dir.join
    (match bytesIn? j "path_hex" with
      | some bytes => ⟨bytes⟩
      | none => .ofString (expand (j.textIn "path")))

/-- The file system with a directory, in which the entries of a tree are made in order. -/
def ofJson (expand : String → String) (dir : Path) (cwd : Place) (entries : List Json.Value) :
    FileSystem :=
  entries.foldl (fun fs j => fs.create (pathIn expand dir j) (nodeOfJson expand j))
    ((FileSystem.mk [] cwd).makeDir dir)

end PluginHost.FileSystem
