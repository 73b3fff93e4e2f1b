import PluginHost.Config
import PluginHost.Json.Decode

/-!
# Configurations as JSON

A configuration is written as an object with all its fields; an absent option is null.  It is
read from an object with any of the fields, or from an array of the fields in order; the fields
left out have their standard values.  A path that is not UTF-8 cannot be written.
-/

namespace PluginHost.Config

/-! ## Writing -/

def pathText (p : Path) : Except String String :=
  match p.text? with
  | some s => .ok s
  | none => .error "path contains invalid UTF-8 characters"

/-- The fields of a configuration as texts; `none` stands for an absent option. -/
def textFields (c : Config) : Except String (List (String × Option String)) := do
  let backendDir ← pathText c.backendDir
  let systemDir ←
    match c.systemDir with
    | none => pure none
    | some p => (pathText p).map some
  return [("backend_dir", some backendDir), ("system_dir", systemDir),
    ("master_plugin", c.masterPlugin), ("plugin_extension", some c.pluginExtension),
    ("running_db", some c.runningDb), ("candidate_db", some c.candidateDb)]

/-- The name of the one field that is no text. -/
def resetField : String := "reset_on_start"

def toJson (c : Config) : Except String Json.Value := do
  let fields ← c.textFields
  return .object (fields.map (fun f => (f.1, Json.Value.optString f.2))
    ++ [(resetField, .bool c.resetOnStart)])

def jsonText (c : Config) : Except String String := c.toJson.map Json.pretty

/-! ## Reading -/

def pathDecoder : Json.Decoder Path := fun depth t =>
  (Json.string "path string" depth t).map Path.ofString

def jsonRecord : Json.Record Config :=
  ⟨"BackendConfig",
    [.of "backend_dir" false pathDecoder fun x c => { c with backendDir := x },
      .of "system_dir" false (Json.optional pathDecoder) fun x c => { c with systemDir := x },
      .of "master_plugin" false (Json.optional (Json.string "a string"))
        fun x c => { c with masterPlugin := x },
      .of "plugin_extension" false (Json.string "a string")
        fun x c => { c with pluginExtension := x },
      .of "running_db" false (Json.string "a string") fun x c => { c with runningDb := x },
      .of "candidate_db" false (Json.string "a string") fun x c => { c with candidateDb := x },
      .of "reset_on_start" false Json.boolean fun x c => { c with resetOnStart := x }]⟩

def ofJsonText (text : String) : Except Json.Problem Config :=
  Json.decode (jsonRecord.decoder .standard) text

end PluginHost.Config
