import PluginHost.Config
import PluginHost.FileSystem.Error
import PluginHost.Json.Decode
import PluginHost.Toml.Scalar
import PluginHost.Yaml.Cursor

/-!
# Configuration formats and errors

The three formats of configuration files, told apart by the extension of the file's name, and what
can go wrong when a configuration is read or written.
-/

namespace PluginHost

inductive Config.Format where
  | json
  | yaml
  | toml
deriving DecidableEq, Repr, Inhabited

namespace Config.Format

def extension : Format → String
  | .json => "json"
  | .yaml => "yaml"
  | .toml => "toml"

def name : Format → String
  | .json => "JSON"
  | .yaml => "YAML"
  | .toml => "TOML"

/-- The format of files with an extension, in upper or lower case.  Only ASCII letters have one of
the letters of these words as their lower case. -/
def ofExtension? (ext : String) : Option Format :=
  let e := String.ofList (ext.toList.map Char.toLower)
  if e = "json" then some .json
  else if e = "yaml" ∨ e = "yml" then some .yaml
  else if e = "toml" then some .toml
  else none

def ofPath? (p : Path) : Option Format := (p.extension?.bind Utf8.string?).bind ofExtension?

end Config.Format

/-- Why a text is no configuration. -/
inductive Config.DecodeFault where
  | json (p : Json.Problem)
  | yaml (p : Yaml.Problem)
  | toml (p : Toml.Problem)
deriving DecidableEq, Repr, Inhabited

def Config.DecodeFault.format : Config.DecodeFault → Config.Format
  | .json _ => .json
  | .yaml _ => .yaml
  | .toml _ => .toml

def Config.DecodeFault.text : Config.DecodeFault → String
  | .json p => p.message
  | .yaml p => p.message
  | .toml p => p.message

/-- Why a configuration cannot be read or written. -/
inductive ConfigError where
  | io (path : Path) (cause : IoError)
  | unsupported (path : Path)
  | decode (fault : Config.DecodeFault)
  | encode (format : Config.Format) (reason : String)
deriving DecidableEq, Repr, Inhabited

def ConfigError.message : ConfigError → String
  | .io path cause =>
    "I/O error reading configuration '" ++ path.display ++ "': " ++ cause.text
  | .unsupported path => "Unsupported configuration format for path: " ++ path.display
  | .decode fault => "Deserialization from '" ++ fault.format.name ++ "' failed: " ++ fault.text
  | .encode format reason => "Serialization to '" ++ format.name ++ "' failed: " ++ reason

end PluginHost
