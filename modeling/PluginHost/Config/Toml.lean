import PluginHost.Config.Json
import PluginHost.Toml.Document
import PluginHost.Toml.Print

/-!
# Configurations as TOML

A configuration is written with a line for each field that has a value.  It is read from a document
with any of the fields; the fields left out have their standard values.
-/

namespace PluginHost.Config

open Toml

/-! ## Writing -/

def tomlText (c : Config) : Except String String := do
  let fields ← c.textFields
  let lines := fields.flatMap fun (key, text) =>
    match text with
    | none => []
    | some text => line key (string text)
  return String.ofList (lines ++ line resetField (Json.boolText c.resetOnStart))

/-! ## Reading -/

/-- The string of a key, if it is there. -/
def tomlString (key : String) (ms : Members) : Except Problem (Option String) :=
  match ms.lookup key with
  | none => .ok none
  | some (.string s) => .ok (some s)
  | some _ => .error (.wrongType "a string")

/-- The truth value of a key, if it is there. -/
def tomlBool (key : String) (ms : Members) : Except Problem (Option Bool) :=
  match ms.lookup key with
  | none => .ok none
  | some (.boolean b) => .ok (some b)
  | some _ => .error (.wrongType "a boolean")

def ofToml (ms : Members) : Except Problem Config := do
  let backendDir ← tomlString "backend_dir" ms
  let systemDir ← tomlString "system_dir" ms
  let masterPlugin ← tomlString "master_plugin" ms
  let pluginExtension ← tomlString "plugin_extension" ms
  let runningDb ← tomlString "running_db" ms
  let candidateDb ← tomlString "candidate_db" ms
  let resetOnStart ← tomlBool resetField ms
  return {
    backendDir := (backendDir.map Path.ofString).getD standard.backendDir
    systemDir := systemDir.map Path.ofString
    masterPlugin := masterPlugin
    pluginExtension := pluginExtension.getD standard.pluginExtension
    runningDb := runningDb.getD standard.runningDb
    candidateDb := candidateDb.getD standard.candidateDb
    resetOnStart := resetOnStart.getD standard.resetOnStart }

def ofTomlText (text : String) : Except Problem Config :=
  match Document.ofText text with
  | .error e => .error e
  | .ok ms => ofToml ms

end PluginHost.Config
