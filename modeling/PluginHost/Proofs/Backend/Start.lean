import PluginHost.Proofs.Backend.SetUp
import PluginHost.Proofs.Lifecycle

/-!
# Plugins whose init hook failed

A plugin whose init hook fails stays registered.  The command that registered it comes back with
that failure, and only by such commands do names come to be kept as failed.  A start does not look
at them: it only asks that the backend is set up and that all start hooks go well.

    a command keeps the names that it reports, and those before                        (keeps_tell)
    start comes back well ↔ set up, not started yet, all start hooks go well         (start_ok_iff)
    a plugin is kept as failed after any commands ↔ its init hook failed since the last stop ↔
    a command since then came back with that failure                          (failed_iff_reported)
-/

namespace PluginHost

variable {σ ν : Type}

/-! ## Reports -/

/-- The plugin whose init hook failed, if that is the failure. -/
def PluginError.uninitialized? : PluginError → Option String
  | .hook plugin .init _ => some plugin
  | _ => none

/-- The plugin whose init hook failed, if that is behind the error. -/
def HostError.uninitialized? : HostError → Option String
  | .plugin e => e.uninitialized?
  | .component _ _ source => source.uninitialized?
  | _ => none

/-- The plugins whose init hook failed, as far as a result reports. -/
def reported (e? : Option HostError) : List String := (e?.bind HostError.uninitialized?).toList

namespace Dispatcher

/-- Beside the names that a dispatcher kept as failed, another keeps what is reported. -/
def Keeps (d : Dispatcher σ ν) (e? : Option HostError) (d' : Dispatcher σ ν) : Prop :=
  d'.failedInit = reported e? ++ d.failedInit

variable {d d₁ d' : Dispatcher σ ν} {e? : Option HostError} (cfg : Config) (s : σ)

theorem keeps_rfl (h : reported e? = []) : d.Keeps e? d := by
  rw [Keeps, h, List.nil_append]

theorem Keeps.trans (h : d.Keeps none d₁) (h' : d₁.Keeps e? d') : d.Keeps e? d' := by
  have hd : d₁.failedInit = d.failedInit := h
  rw [Keeps, ← hd]
  exact h'

/-- What registers a plugin reports its init hook if that fails, and keeps its name. -/
theorem keeps_register (d : Dispatcher σ ν) (p : Plugin σ ν) :
    let r := (d.register cfg p s).value
    d.Keeps (errorOf? .plugin r.1) r.2 := by
  simp only [register]
  cases hi : d.registry.insert p with
  | error e =>
    have he : e = .duplicate p.name := by
      unfold Registry.insert at hi
      split at hi
      · exact (Except.error.inj hi).symm
      · cases hi
    exact keeps_rfl (by rw [he]; rfl)
  | ok registry =>
    cases p.init with
    | none => exact keeps_rfl rfl
    | some hook =>
      simp only [Act.run_bind]
      obtain ⟨result, table⟩ := (callInit d.table cfg p.name hook s).value
      cases result <;> rfl

end Dispatcher

/-! ## Loading -/

theorem Loader.uninitialized_load {disk : Disk σ ν} {path : Path} {s : σ} {e : PluginError}
    (h : (Loader.load disk path s).value = .error e) : e.uninitialized? = none := by
  simp only [Loader.load, Act.run_bind, Act.get] at h
  cases hl : disk.load s path with
  | error cause =>
    rw [hl] at h
    obtain rfl := Except.error.inj h
    rfl
  | ok lib =>
    rw [hl] at h
    cases h

theorem Loader.uninitialized_discoverDir {l : Loader} {disk : Disk σ ν} {dir : Path} {s : σ}
    {e : PluginError} (h : (l.discoverDir disk dir s).value = .error e) :
    e.uninitialized? = none := by
  simp only [Loader.discoverDir, Act.run_bind, Act.get] at h
  cases hl : disk.list s dir with
  | error cause =>
    rw [hl] at h
    obtain rfl := Except.error.inj h
    rfl
  | ok entries =>
    rw [hl] at h
    cases h

theorem reported_of_plugin {e : PluginError} (h : e.uninitialized? = none) :
    reported (some (.plugin e)) = [] := by
  simp [reported, HostError.uninitialized?, h]

namespace Dispatcher

theorem keeps_loadEach (cfg : Config) (d : Dispatcher σ ν) (disk : Disk σ ν) (paths : List Path)
    (s : σ) :
    let r := (d.loadEach disk cfg paths s).value
    d.Keeps (errorOf? .plugin r.1) r.2 := by
  induction paths generalizing d s with
  | nil => exact keeps_rfl rfl
  | cons path paths ih =>
    let s' := (Loader.load disk path s).state
    simp only [loadEach, Act.run_bind]
    cases hl : (Loader.load disk path s).value with
    | error e => exact keeps_rfl (reported_of_plugin (Loader.uninitialized_load hl))
    | ok p =>
      have hreg := keeps_register cfg s' d p
      simp only [Act.run_bind]
      rcases hr : (d.register cfg p s').value with ⟨r, d₁⟩
      rw [hr] at hreg
      cases r with
      | error e => exact hreg
      | ok u => exact hreg.trans (ih d₁ _)

theorem keeps_loadAll (cfg : Config) (d : Dispatcher σ ν) (disk : Disk σ ν) (paths : List Path)
    (s : σ) :
    let r := (d.loadAll disk cfg paths s).value
    d.Keeps (errorOf? .plugin r.1) r.2 := by
  have h := keeps_loadEach cfg d disk paths s
  simp only [loadAll, Act.run_bind]
  rcases hr : (d.loadEach disk cfg paths s).value with ⟨r, d'⟩
  rw [hr] at h
  cases r <;> exact h

end Dispatcher

namespace Manager

open Dispatcher (keeps_rfl)

variable (m : Manager σ ν) (cfg : Config) (disk : Disk σ ν) (s : σ)

theorem keeps_loadPlugin (path : Path) :
    let r := (m.loadPlugin disk cfg path s).value
    m.dispatcher.Keeps (errorOf? .plugin r.1) r.2.dispatcher := by
  have h := Dispatcher.keeps_loadAll cfg m.dispatcher disk [path] s
  simp only [loadPlugin, Act.run_bind]
  rcases hr : (m.dispatcher.loadAll disk cfg [path] s).value with ⟨r, d'⟩
  rw [hr] at h
  cases r <;> exact h

theorem keeps_loadDir (dir : Path) :
    let r := (m.loadDir disk cfg dir s).value
    m.dispatcher.Keeps (errorOf? .plugin r.1) r.2.dispatcher := by
  simp only [loadDir, Act.run_bind]
  cases hl : (m.loader.discoverDir disk dir s).value with
  | error e => exact keeps_rfl (reported_of_plugin (Loader.uninitialized_discoverDir hl))
  | ok paths => exact Dispatcher.keeps_loadAll cfg m.dispatcher disk paths _

theorem keeps_loadDirs (total : Nat) (dirs : List Path) :
    let r := (m.loadDirs disk cfg total dirs s).value
    m.dispatcher.Keeps (errorOf? .plugin r.1) r.2.dispatcher := by
  induction dirs generalizing m total s with
  | nil => exact keeps_rfl rfl
  | cons dir dirs ih =>
    have h := keeps_loadDir m cfg disk s dir
    simp only [loadDirs, Act.run_bind]
    rcases hr : (m.loadDir disk cfg dir s).value with ⟨r, m₁⟩
    rw [hr] at h
    cases r with
    | error e => exact h
    | ok total => exact h.trans (ih m₁ _ total)

theorem keeps_setUp :
    let r := (m.setUp disk cfg s).value
    m.dispatcher.Keeps (errorOf? .plugin r.1) r.2.dispatcher := by
  have h := keeps_loadDirs m cfg disk s 0 m.loader.dirs
  simp only [setUp, Act.run_bind, Act.log, Act.emit]
  rcases hr : (m.loadDirs disk cfg 0 m.loader.dirs s).value with ⟨r, m'⟩
  rw [hr] at h
  cases r <;> exact h

end Manager

/-! ## Hooks that are not of init -/

namespace Dispatcher

theorem uninitialized_of_verdict {plan : List (Step σ ν PluginError)} {s : σ} {e : PluginError}
    (hplan : ∀ st ∈ plan, ∀ cause, (st.blame cause).uninitialized? = none)
    (h : Step.verdict () (Step.error? plan s) = .error e) : e.uninitialized? = none := by
  cases hf : Step.firstFailure? plan s with
  | none =>
    rw [Step.error?_of_none hf] at h
    cases h
  | some f =>
    rw [Step.error?_of_failure hf] at h
    obtain rfl := Except.error.inj h
    exact hplan f.step (Step.step_mem hf) f.cause

variable {d : Dispatcher σ ν} {cfg : Config} {s : σ} {e : PluginError}

theorem uninitialized_start {args : List String} (h : (d.start cfg args s).value = .error e) :
    e.uninitialized? = none := by
  rw [(d.performs_start cfg args s).value] at h
  refine uninitialized_of_verdict (fun st hst cause => ?_) h
  obtain ⟨p, -, rfl⟩ := List.mem_map.1 hst
  rfl

theorem uninitialized_reset (h : (d.reset cfg s).value = .error e) : e.uninitialized? = none := by
  rw [(d.performs_reset cfg s).value] at h
  refine uninitialized_of_verdict (fun st hst cause => ?_) h
  obtain ⟨p, -, rfl⟩ := List.mem_map.1 hst
  rfl

end Dispatcher

/-! ## What commands report -/

theorem reported_of_result {α : Type} {r : Except PluginError α}
    (h : ∀ e, r = .error e → e.uninitialized? = none) : reported (errorOf? .plugin r) = [] := by
  cases r with
  | error e => exact reported_of_plugin (h e rfl)
  | ok a => rfl

theorem reported_transaction {α : Type} (r : Except TransactionError α) :
    reported (errorOf? .transaction r) = [] := by
  cases r <;> rfl

theorem reported_mapError_transaction {α : Type} (r : Except TransactionError α) :
    reported (errorOf? id (r.mapError .transaction)) = [] := by
  cases r <;> rfl

namespace Manager

open Dispatcher (keeps_rfl uninitialized_start uninitialized_reset)

def Command.isStop : Command σ ν → Bool
  | .stop => true
  | _ => false

theorem keeps_tell {c : Command σ ν} (h : c.isStop = false) (m : Manager σ ν) (cfg : Config)
    (s : σ) :
    let r := (m.tell cfg c s).value
    m.dispatcher.Keeps r.1 r.2.dispatcher := by
  cases c with
  | register p => exact Dispatcher.keeps_register cfg s m.dispatcher p
  | load disk path => exact m.keeps_loadPlugin cfg disk s path
  | loadDir disk dir => exact m.keeps_loadDir cfg disk s dir
  | setUp disk => exact m.keeps_setUp cfg disk s
  | setStartArgs args => exact keeps_rfl rfl
  | start => exact keeps_rfl (reported_of_result fun _ => uninitialized_start)
  | reset => exact keeps_rfl (reported_of_result fun _ => uninitialized_reset)
  | commit tx => exact keeps_rfl (reported_transaction _)
  | validate tx => exact keeps_rfl (reported_transaction _)
  | stop => cases h

theorem failedInit_stop (m : Manager σ ν) (cfg : Config) (s : σ) :
    (m.stop cfg s).value.dispatcher.failedInit = [] := by
  simp only [stop, Act.run_bind]
  split <;> rfl

end Manager

namespace Backend

open Dispatcher (keeps_rfl uninitialized_start uninitialized_reset)

/-- Whether a command makes all plugins forgotten. -/
def Command.forgets : Command σ ν → Bool
  | .shutdown => true
  | .manager c => c.isStop
  | _ => false

variable (b : Backend σ ν) (s : σ)

theorem reported_reset : reported (errorOf? id (b.reset s).value) = [] := by
  rw [value_reset]
  cases h : (b.manager.dispatcher.reset b.config s).value with
  | error e => exact reported_of_plugin (uninitialized_reset h)
  | ok u => rfl

theorem keeps_setUp (disk : Disk σ ν) :
    let r := (b.setUp disk s).value
    b.manager.dispatcher.Keeps (errorOf? id r.1) r.2.manager.dispatcher := by
  cases h : b.isSetUp with
  | true =>
    rw [setUp_of_isSetUp h]
    exact keeps_rfl rfl
  | false =>
    have hload := b.manager.keeps_setUp b.config disk s
    rcases hm : (b.manager.setUp disk b.config s).value with ⟨r, m⟩
    rw [hm] at hload
    cases r with
    | error e =>
      rw [value_setUp_of_error h hm]
      exact hload
    | ok u =>
      rw [value_setUp_of_ok h hm]
      refine hload.trans (keeps_rfl ?_)
      cases b.config.resetOnStart with
      | false => rfl
      | true => exact reported_reset _ _

theorem keeps_start (args : List String) :
    let r := (b.start args s).value
    b.manager.dispatcher.Keeps (errorOf? id r.1) r.2.manager.dispatcher := by
  by_cases h : b.Ready
  · rw [value_start_of_ready h]
    cases hr : (b.manager.dispatcher.start b.config args s).value with
    | error e => exact keeps_rfl (reported_of_plugin (uninitialized_start hr))
    | ok u => exact keeps_rfl rfl
  · rw [start_of_not_ready h]
    exact keeps_rfl rfl

theorem keeps_run (disk : Disk σ ν) (args : List String) :
    let r := (b.run disk args s).value
    b.manager.dispatcher.Keeps (errorOf? id r.1) r.2.manager.dispatcher := by
  have hsetUp := b.keeps_setUp s disk
  rcases hv : (b.setUp disk s).value with ⟨r, b'⟩
  rw [hv] at hsetUp
  rw [value_run, hv]
  cases r with
  | error e => exact hsetUp
  | ok u => exact hsetUp.trans (b'.keeps_start _ args)

theorem keeps_register (p : Plugin σ ν) :
    let r := (b.register p s).value
    b.manager.dispatcher.Keeps (errorOf? id r.1) r.2.manager.dispatcher := by
  have h := Dispatcher.keeps_register b.config s b.manager.dispatcher p
  simp only [register, Manager.register, Act.run_bind]
  rcases hr : (b.manager.dispatcher.register b.config p s).value with ⟨r, d⟩
  rw [hr] at h
  cases r <;> exact h

theorem keeps_commit (changes : ChangeSet) :
    let r := (b.commit changes s).value
    b.manager.dispatcher.Keeps (errorOf? id r.1) r.2.manager.dispatcher := by
  unfold commit
  split
  · exact keeps_rfl (reported_mapError_transaction _)
  · exact keeps_rfl rfl

theorem keeps_validate (changes : ChangeSet) :
    let r := (b.validate changes s).value
    b.manager.dispatcher.Keeps (errorOf? id r.1) r.2.manager.dispatcher := by
  unfold validate
  split
  · exact keeps_rfl (reported_mapError_transaction _)
  · exact keeps_rfl rfl

/-- A command that does not make all plugins forgotten keeps the names that it reports, and those
that were kept before. -/
theorem keeps_tell {c : Command σ ν} (h : c.forgets = false) :
    let r := (b.tell c s).value
    b.manager.dispatcher.Keeps r.1 r.2.manager.dispatcher := by
  cases c with
  | register p => exact b.keeps_register s p
  | setUp disk => exact b.keeps_setUp s disk
  | start args => exact b.keeps_start s args
  | run disk args => exact b.keeps_run s disk args
  | reset => exact keeps_rfl (b.reported_reset s)
  | commit changes => exact b.keeps_commit s changes
  | validate changes => exact b.keeps_validate s changes
  | shutdown => cases h
  | manager c => exact Manager.keeps_tell h b.manager b.config s

theorem failedInit_of_forgets {c : Command σ ν} (h : c.forgets = true) :
    (b.tell c s).value.1 = none ∧
      (b.tell c s).value.2.manager.dispatcher.failedInit = [] := by
  cases c with
  | shutdown => exact ⟨rfl, b.manager.failedInit_stop b.config _⟩
  | manager c =>
    cases c with
    | stop => exact ⟨rfl, b.manager.failedInit_stop b.config _⟩
    | _ => cases h
  | _ => cases h

/-! ## Kept names over whole runs -/

/-- An error came back that reports the failed init hook of a plugin. -/
def Exchange.Reports (name : String) (x : Exchange σ ν) : Prop := name ∈ reported x.error?

theorem mem_failedInit_tell_iff (name : String) (b : Backend σ ν) (c : Command σ ν) (s : σ) :
    let x : Exchange σ ν := ⟨c, (b.tell c s).value.1⟩
    name ∈ (b.tell c s).value.2.manager.dispatcher.failedInit ↔
      x.Reports name ∨ name ∈ b.manager.dispatcher.failedInit ∧ ¬ x.command.forgets = true := by
  intro x
  cases h : c.forgets with
  | true =>
    obtain ⟨hnone, hnil⟩ := b.failedInit_of_forgets s h
    simp [x, Exchange.Reports, hnone, hnil, reported]
  | false =>
    have hkeeps : _ = _ := b.keeps_tell s h
    rw [hkeeps, List.mem_append]
    simp [x, Exchange.Reports]

/-- Carries out commands on the new backend of a configuration, and gives them with their errors. -/
def recount (cfg : Config) (commands : List (Command σ ν)) :
    Act σ (Event ν) (List (Exchange σ ν) × Backend σ ν) := do
  (← create cfg).converse commands

theorem live_eq (cfg : Config) (commands : List (Command σ ν)) :
    live cfg commands = do return (← recount cfg commands).2 := by
  funext s
  simp only [live, recount, obey_eq, Act.run_bind, Act.run_pure, List.append_nil]

/-- Since all was last forgotten, the host was told of each name that is kept as failed. -/
theorem mem_failedInit_recount_iff (cfg : Config) (commands : List (Command σ ν)) (s : σ)
    (name : String) :
    let talk := recount cfg commands s
    name ∈ talk.value.2.manager.dispatcher.failedInit ↔
      Since (Exchange.Reports name) (fun x => x.command.forgets = true) talk.value.1 := by
  intro talk
  let new : Backend σ ν := ⟨cfg, false, false, .ofConfig cfg, 1⟩
  have hnew : name ∉ new.manager.dispatcher.failedInit := List.not_mem_nil
  have hsince : name ∈ talk.value.2.manager.dispatcher.failedInit ↔
      Since (Exchange.Reports name) (fun x => x.command.forgets = true) talk.value.1 ∨
      name ∈ new.manager.dispatcher.failedInit ∧ ∀ x ∈ talk.value.1, ¬ x.command.forgets = true :=
    iff_since_converse (P := fun b => name ∈ b.manager.dispatcher.failedInit)
      (mem_failedInit_tell_iff name) new commands s
  rw [hsince, or_iff_left fun h => hnew h.1]

/-- A start comes back well just if the backend is set up, not started yet, and all start hooks go
well, whatever plugins are kept as failed. -/
theorem start_ok_iff (b : Backend σ ν) (args : List String) (s : σ) :
    (b.start args s).value.1 = .ok () ↔ b.Ready ∧
      Step.GoesWell ((b.manager.dispatcher.registry.withHook .start).map
        (Dispatcher.startStep b.config args)) s := by
  by_cases h : b.Ready
  · rw [value_start_of_ready h, (b.manager.dispatcher.performs_start b.config args s).value,
      ← Step.firstFailure?_eq_none_iff]
    cases hf : Step.firstFailure? ((b.manager.dispatcher.registry.withHook .start).map
        (Dispatcher.startStep b.config args)) s with
    | none =>
      rw [Step.error?_of_none hf]
      exact iff_of_true rfl ⟨h, rfl⟩
    | some f =>
      rw [Step.error?_of_failure hf]
      exact iff_of_false nofun fun hr => nomatch hr.2
  · rw [start_of_not_ready h]
    exact iff_of_false nofun fun hr => h hr.1

theorem dispatcher_start (b : Backend σ ν) (args : List String) (s : σ) :
    (b.start args s).value.2.manager.dispatcher = b.manager.dispatcher := by
  by_cases h : b.Ready
  · rw [value_start_of_ready h]
    cases (b.manager.dispatcher.start b.config args s).value <;> rfl
  · rw [start_of_not_ready h]

/-- After any commands to a new backend, a start comes back well whatever init hooks failed, if only
the backend is set up and all start hooks go well.  Then the plugins whose init hook failed since
all was last forgotten are kept as failed, and they are just those that the host was told of. -/
theorem failed_iff_reported (cfg : Config) (commands : List (Command σ ν)) (args : List String)
    (s : σ) :
    let talk := recount cfg commands s
    let b := talk.value.2
    let started := b.start args talk.state
    (started.value.1 = .ok () ↔ b.Ready ∧
      Step.GoesWell ((b.manager.dispatcher.registry.withHook .start).map
        (Dispatcher.startStep b.config args)) talk.state) ∧
    ∃ moves, List.Forall₂ (Command.Spells cfg) commands moves ∧
      Plays (live cfg commands) s b .empty moves.flatten started.value.2.manager.dispatcher ∧
      ∀ name,
        (name ∈ started.value.2.manager.dispatcher.failedInit ↔
          Dispatcher.empty.FailedSince moves.flatten s name) ∧
        (name ∈ started.value.2.manager.dispatcher.failedInit ↔
          Since (Exchange.Reports name) (fun x => x.command.forgets = true) talk.value.1) := by
  intro talk b started
  have hlive : (live cfg commands s).value = b := by
    rw [live_eq]
    rfl
  obtain ⟨b', moves, hspells, hplays⟩ := plays_live cfg commands s
  obtain rfl : b = b' := hlive.symm.trans hplays.value
  have hd : started.value.2.manager.dispatcher = b.manager.dispatcher :=
    b.dispatcher_start args talk.state
  rw [hd]
  refine ⟨b.start_ok_iff args talk.state, moves, hspells, hplays, fun name => ⟨?_, ?_⟩⟩
  · rw [← hplays.leads, Dispatcher.mem_failedInit_play Dispatcher.sound_empty]
    simp [Dispatcher.empty]
  · exact mem_failedInit_recount_iff cfg commands s name

/-- A backend is started though the init hook of a plugin failed, which is registered still. -/
theorem started_with_failed_init :
    let commands := [Command.register (guest "bob" (.panicked .other)), .setUp bare]
    let talk := recount .standard commands ()
    let started := talk.value.2.start [] talk.state
    started.value.1.isOk = true ∧
    "bob" ∈ started.value.2.manager.dispatcher.registry.names ∧
    "bob" ∈ started.value.2.manager.dispatcher.failedInit := by
  decide +kernel

end Backend

end PluginHost
