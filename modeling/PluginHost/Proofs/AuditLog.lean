import Mathlib.Data.List.Forall2
import PluginHost.AuditLog
import PluginHost.Proofs.ArgVector
import PluginHost.Proofs.Dispatcher.LikeSessions

/-!
# The audit log in its two shapes

The audit log behaves the same, whether it is built into the host or a library.  Hook by hook the two
write the same and fail together: built in with a message, as a library with a status.  Start
arguments come out of their vector as they went in, and the callback on the watched subtree crosses
as it is.  So sessions with the one and with the other are alike.

    the plugin and its library are alike                                         (alike_library)
    a session with the library in the place of the plugin is the same session    (library_as_plugin)
-/

namespace PluginHost

variable {σ ν : Type}

namespace AuditLog

/-! ## The same session with the library -/

/-- How a session with the library may differ: the plugin of this name has the path of a file instead
of none, and its hooks fail with a status instead of a message.  Its callback fails as before, and so
do the other plugins.  If there are `others` of this name, they fail as before, too. -/
def asLibrary (path : Path) (others : Prop) : Leeway where
  path plugin p p' := p = p' ∨ plugin = name ∧ p = none ∧ p' = some path
  hook plugin _ e e' :=
    (plugin = name ∧ (∃ text, e = .message text) ∧ e' = .status (-1)) ∨
      (e = e' ∧ (plugin = name → others))
  callback := Eq
  args := ArgVector.Crosses

/-- What stands in the place of a plugin: the library for the audit log, any other plugin for itself.
Unless there are `others`, these have other names. -/
inductive Moved (files : Files σ) (path : Path) (others : Prop) : Plugin σ ν → Plugin σ ν → Prop where
  | own : Moved files path others (plugin files) (.ofLibrary name path (library files))
  | other {p : Plugin σ ν} : (p.name = name → others) → Moved files path others p p

/-- The same operation with the library in the place of the plugin.  Start arguments have to cross: the
library is handed as many pointers as it is told, to texts without a zero character. -/
inductive MovedIn (files : Files σ) (path : Path) (others : Prop) :
    Operation σ ν → Operation σ ν → Prop where
  | register {p p' : Plugin σ ν} : Moved files path others p p' →
      MovedIn files path others (.register p) (.register p')
  | registerAll {ps ps' : List (Plugin σ ν)} : List.Forall₂ (Moved files path others) ps ps' →
      MovedIn files path others (.registerAll ps) (.registerAll ps')
  | loadAll (disk : Disk σ ν) {paths : List Path} :
      (∀ p ∈ paths, (Loader.pluginName? p).getD p.display = name → others) →
      MovedIn files path others (.loadAll disk paths) (.loadAll disk paths)
  | registerFor (plugin : String) (q : Request (Callback σ ν)) :
      MovedIn files path others (.registerFor plugin q) (.registerFor plugin q)
  | start {args : List String} : ArgVector.Crosses args →
      MovedIn files path others (.start args) (.start args)
  | plain {o : Operation σ ν} : o.isPlain = true → MovedIn files path others o o

/-! ## Hook by hook -/

/-- A line is added, or it is told why not. -/
theorem append_value (files : Files σ) (cfg : Config) (line : String) (s : σ) :
    (append files cfg line s : Ran σ (Note ν) Outcome).value = .done ∨
      ∃ text, (append files cfg line s : Ran σ (Note ν) Outcome).value = .failed (.message text) := by
  simp only [append]
  obtain ⟨result, s'⟩ := files.append s (cfg.backendDir.join (.ofString fileName))
    (Utf8.ofString (line ++ "\n"))
  cases result with
  | ok _ => exact .inl rfl
  | error fault => exact .inr ⟨_, rfl⟩

/-- An exported hook writes what the plugin writes, and fails with it. -/
theorem comesOut_exportHook {E : HookError → HookError → Prop}
    (hE : ∀ text, E (.message text) (.status (-1))) (files : Files σ) (cfg : Config) (line : String) :
    ComesOut E (append files cfg line : Act σ (Note ν) Outcome) (do
      return (← (Exported.status <$> exportHook (some cfg) fun cfg =>
        append files cfg line).quiet).outcome) := by
  intro s
  refine ⟨rfl, ?_⟩
  show Likewise E Eq (append files cfg line s : Ran σ (Note ν) Outcome).value.result
    (Outcome.ofStatus (status (append files cfg line s : Ran σ (Note ν) Outcome).value)).result
  obtain hdone | ⟨text, hfailed⟩ := append_value (ν := ν) files cfg line s
  · rw [hdone]
    exact .ok rfl
  · rw [hfailed]
    exact .error (hE text)

/-- The callback is handed over as it is; only its log is not seen. -/
theorem alike_watch {L : Leeway} (hL : ∀ e, L.callback e e) (files : Files σ) :
    Callback.Alike L (watch files : Callback σ ν) fun cfg op view => (watch files cfg op view).quiet :=
  fun cfg op view => .quiet hL (watch files cfg op view)

/-- The plugin and its library are alike. -/
theorem alike_library (files : Files σ) (path : Path) (others : Prop) :
    Plugin.Alike (asLibrary path others) (plugin files : Plugin σ ν)
      (.ofLibrary name path (library files)) where
  name := rfl
  path := .inr ⟨rfl, rfl, rfl⟩
  init := by
    refine .some fun cfg registrar s => .register (.intro (alike_watch (fun _ => rfl) files)) ?_
    intro answer
    cases answer with
    | ok id => exact .finish (.ok rfl)
    | error e => exact .finish (.error (.inl ⟨rfl, ⟨_, rfl⟩, rfl⟩))
  start := by
    refine .some fun cfg args hargs => ?_
    -- what the library reads from its vector is what the host was given
    have hline : startLine (ArgVector.ofList args).toList = startLine args := by
      rw [ArgVector.toList_ofList_of_crosses hargs]
    have hhook := comesOut_exportHook (ν := ν) (E := (asLibrary path others).hook name .start)
      (fun text => .inl ⟨rfl, ⟨text, rfl⟩, rfl⟩) files cfg
      (startLine (ArgVector.ofList args).toList)
    rw [← hline]
    exact hhook
  exit := .some fun cfg _ _ => comesOut_exportHook (fun _ => .inl ⟨rfl, ⟨_, rfl⟩, rfl⟩) files cfg _
  reset := .some fun cfg _ _ => comesOut_exportHook (fun _ => .inl ⟨rfl, ⟨_, rfl⟩, rfl⟩) files cfg _
  phase _ := .some fun cfg _ _ => comesOut_exportHook (fun _ => .inl ⟨rfl, ⟨_, rfl⟩, rfl⟩) files cfg _

/-! ## Operation by operation -/

variable {files : Files σ} {path : Path} {others : Prop}

theorem alike_other {p : Plugin σ ν} (h : p.name = name → others) :
    Plugin.Alike (asLibrary path others) p p :=
  .refl (.inl rfl) (fun _ _ => .inr ⟨rfl, h⟩) fun _ => rfl

theorem Moved.alike {p p' : Plugin σ ν} (h : Moved files path others p p') :
    Plugin.Alike (asLibrary path others) p p' := by
  cases h with
  | own => exact alike_library files path others
  | other hname => exact alike_other hname

theorem MovedIn.alike {o o' : Operation σ ν} (h : MovedIn files path others o o') :
    Operation.Alike (asLibrary path others) o o' := by
  cases h with
  | register hp => exact .register hp.alike
  | registerAll hps => exact .registerAll (hps.imp fun _ _ hp => hp.alike)
  | loadAll disk hpaths =>
    refine .loadAll fun p hp s => ?_
    cases disk.load s p with
    | ok lib => exact .ok (alike_other (hpaths p hp))
    | error e => exact .error rfl
  | registerFor plugin q =>
    exact .registerFor plugin (.intro fun cfg op view => .refl (fun _ => rfl) (q.callback cfg op view))
  | start hargs => exact .start hargs
  | plain ho => exact .plain ho

/-- The audit log is the same from a library.  With the library in the place of the plugin, and any
other plugins around it, every session goes through the same states of the plugins, the file of the
audit log among them, and makes the same calls, operation by operation.  Its answers are the same, but
that a hook of the audit log fails with a status where it failed with a message; and it holds the same
transactions. -/
theorem library_as_plugin (files : Files σ) (path : Path) (others : Prop) (cfg : Config)
    {operations operations' : List (Operation σ ν)}
    (hmoved : List.Forall₂ (MovedIn files path others) operations operations') (n : Nat) (s : σ) :
    let r := Session.new.run cfg (operations.take n) s
    let r' := Session.new.run cfg (operations'.take n) s
    r.state = r'.state ∧
      List.Forall₂ (Session.Entry.Alike (asLibrary path others)) r.value.1 r'.value.1 ∧
      Session.Alike (asLibrary path others) r.value.2 r'.value.2 := by
  have hsteps : List.Forall₂ (Operation.Alike (asLibrary path others)) (operations.take n)
      (operations'.take n) := List.forall₂_take n (hmoved.imp fun _ _ h => h.alike)
  have htwins : Twins _ (Session.new.run cfg (operations.take n))
      (Session.new.run cfg (operations'.take n)) := Session.Alike.new.run hsteps
  exact ⟨htwins.state s, (htwins.value s).fst, (htwins.value s).snd⟩

/-! ## A night shift -/

/-- The state is a file system, which takes all that is written. -/
def allFiles : Files FileSystem := ⟨id, fun _ fs => fs, fun _ _ _ => none⟩

/-- A plugin that throws all files away when it exits. -/
def janitor : Plugin FileSystem Unit :=
  { Plugin.named "janitor" with exit := some fun _ _ _ => ⟨.done, .empty, []⟩ }

/-- A shift on which the janitor comes before the commit. -/
def shift (log : Plugin FileSystem Unit) : List (Operation FileSystem Unit) :=
  [.registerAll [log, janitor], .newTransaction "dusk" "dawn" [.added "interfaces" []],
    .start ["late", "shift"], .exit, .commit 0]

/-- The log lies in a drawer. -/
def office : Config := { Config.standard with backendDir := .ofString "drawer" }

def desk : FileSystem := FileSystem.empty.makeDir office.backendDir

/-- Where the log lies as a library. -/
def stored : Path := .ofString "/plugins/audit-log.so"

/-- The log is written while there is a drawer for it.  Afterwards the commit fails, from the library
with a status. -/
theorem library_as_plugin_shift :
    let built := shift (plugin allFiles)
    let moved := shift (.ofLibrary name stored (library allFiles))
    let r := Session.new.run office (built.take 5) desk
    let r' := Session.new.run office (moved.take 5) desk
    List.Forall₂ (MovedIn allFiles stored False) built moved ∧
    (Session.new.run office (built.take 3) desk).state.nodes.map (·.2) =
      [.directory, .file (Utf8.ofString "start late shift\n")] ∧
    (r'.value.1.map (·.answer)).getLast? =
      some (.summary (.error (.phaseVeto .begin name (.status (-1))))) ∧
    r.state = r'.state ∧
    List.Forall₂ (Session.Entry.Alike (asLibrary stored False)) r.value.1 r'.value.1 ∧
    Session.Alike (asLibrary stored False) r.value.2 r'.value.2 := by
  have hwritten : (Session.new.run office ((shift (plugin allFiles)).take 3)
      desk).state.nodes.map (·.2) =
        [.directory, .file (Utf8.ofString "start late shift\n")] := by rfl
  have hstatus : ((Session.new.run office
      ((shift (.ofLibrary name stored (library allFiles))).take 5)
      desk).value.1.map (·.answer)).getLast? =
        some (.summary (.error (.phaseVeto .begin name (.status (-1))))) := by rfl
  have hargs : ArgVector.Crosses ["late", "shift"] :=
    ⟨ArgVector.isCounted_ofList (by decide), by decide +kernel⟩
  have hmoved : List.Forall₂ (MovedIn allFiles stored False) (shift (plugin allFiles))
      (shift (.ofLibrary name stored (library allFiles))) :=
    .cons (.registerAll (.cons .own (.cons (.other (by decide)) .nil)))
      (.cons (.plain rfl) (.cons (.start hargs) (.cons (.plain rfl) (.cons (.plain rfl) .nil))))
  exact ⟨hmoved, hwritten, hstatus,
    library_as_plugin allFiles stored False office hmoved 5 desk⟩

end AuditLog

end PluginHost
