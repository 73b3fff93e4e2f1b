import PluginHost.CommandLine
import PluginHost.FileSystem.Json
import PluginHost.World

/-!
# The program

Runs a command over a file tree.  The tree is read from the standard input, as a line with a JSON
array of its entries; the root is the working directory.
-/

/-- The file tree that a line describes; none without a line. -/
def fileTree (line : String) : PluginHost.FileSystem :=
  let entries :=
    match PluginHost.Json.decode PluginHost.Json.value line with
    | .ok (.array entries) => entries
    | _ => []
  PluginHost.FileSystem.ofJson id (.ofString "/") [] entries

def main (args : List String) : IO UInt32 := do
  let line ← (← IO.getStdin).getLine
  let world := PluginHost.World.ofFiles (fileTree line)
  let outside : PluginHost.CommandLine.Outside PluginHost.World Empty :=
    ⟨PluginHost.World.disk, fun w => w.files.readText⟩
  let exit := ((PluginHost.CommandLine.program outside args) world).value
  (← IO.getStdout).putStr exit.stdout
  (← IO.getStderr).putStr exit.stderr
  return UInt32.ofNat exit.code
