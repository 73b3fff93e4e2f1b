import PluginHost.Path

/-!
# Configuration

The options of the host: where plugins are found, which is loaded first, and how the databases of
a commit are called.
-/

namespace PluginHost

/-- The options of the host. -/
structure Config where
  /-- Directory of the application's plugins. -/
  backendDir : Path
  /-- Directory of system plugins, loaded before the application's. -/
  systemDir : Option Path
  /-- File stem of the plugin that is loaded first. -/
  masterPlugin : Option String
  /-- Extension of plugin files, without the point. -/
  pluginExtension : String
  /-- Name of the committed database. -/
  runningDb : String
  /-- Name of the database being committed. -/
  candidateDb : String
  /-- Whether the reset hooks run before the start hooks. -/
  resetOnStart : Bool
deriving DecidableEq, Repr

namespace Config

/-- The options where nothing is configured. -/
def standard : Config where
  backendDir := Path.ofString "plugins/backend"
  systemDir := none
  masterPlugin := none
  pluginExtension := "so"
  runningDb := "running"
  candidateDb := "candidate"
  resetOnStart := false

instance : Inhabited Config := ⟨standard⟩

/-- The plugin directories in load order. -/
def pluginDirs (c : Config) : List Path := c.systemDir.toList ++ [c.backendDir]

end Config

end PluginHost
