import PluginHost.FileSystem.Json
import PluginHost.Inspect
import PluginHost.Main
import PluginHost.Proofs.Backend.Start
import PluginHost.Proofs.Dispatcher.Abort
import PluginHost.Proofs.Dispatcher.Atomicity
import PluginHost.Proofs.Dispatcher.Inverse
import PluginHost.Proofs.Dispatcher.Rehearsal
import PluginHost.Proofs.Dispatcher.Rollback
import PluginHost.Proofs.Dispatcher.Session
import PluginHost.Proofs.Lifecycle
import PluginHost.Script.Json
import PluginHost.Proofs.Dependency.Alike
import PluginHost.Proofs.Alike
import PluginHost.Proofs.Dispatcher.Alike
import PluginHost.Proofs.Dispatcher.LikeSessions
import PluginHost.Proofs.Backend.Alike
import PluginHost.Proofs.Host
import PluginHost.Proofs.ArgVector
import PluginHost.Proofs.AuditLog
import PluginHost.Proofs.CommandLine
import PluginHost.Proofs.ChangeView
import PluginHost.Proofs.Backend.Run
import PluginHost.Proofs.Dependency.Queries
import PluginHost.Proofs.Dispatcher.Ids
import PluginHost.Proofs.Discovery
import PluginHost.Proofs.Inspection
import PluginHost.Proofs.Key.Segments
import PluginHost.Proofs.Config.Json
