import PluginHost.Config.Error
import PluginHost.Config.Json
import PluginHost.Config.Toml
import PluginHost.Config.Yaml

/-!
# Reading and writing configurations

A configuration in the text of any of the three formats, and the configuration in a file, whose
format goes by its name.
-/

namespace PluginHost.Config

def ofText (f : Format) (text : String) : Except ConfigError Config :=
  match f with
  | .json => (ofJsonText text).mapError fun p => .decode (.json p)
  | .yaml => (ofYamlText text).mapError fun p => .decode (.yaml p)
  | .toml => (ofTomlText text).mapError fun p => .decode (.toml p)

def text (c : Config) (f : Format) : Except ConfigError String :=
  match f with
  | .json => c.jsonText.mapError (.encode .json)
  | .yaml => c.yamlText.mapError (.encode .yaml)
  | .toml => c.tomlText.mapError (.encode .toml)

/-- Reads the configuration in a file. -/
def load (read : Path → Except IoError String) (path : Path) : Except ConfigError Config :=
  match Format.ofPath? path with
  | none => .error (.unsupported path)
  | some f =>
    match read path with
    | .error e => .error (.io path e)
    | .ok text => ofText f text

end PluginHost.Config
