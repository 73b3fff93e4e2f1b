import PluginHost.Proofs.Backend.Conversation
import PluginHost.Proofs.Dispatcher.Alike

/-!
# Backends with plugins that fail alike

Backends are alike if they differ only in their plugins and dependencies, which are alike.  Whatever
two of them are told, with plugins and libraries that are alike, is done by twins and answered alike.

    b.Alike b', c.Alike c' → b.serve c and b'.serve c' are twins                       (Alike.serve)
    b.tell c gives the error that b.serve c comes back with                                (tell_eq)
-/

namespace PluginHost

variable {σ ν : Type} {L : Leeway}

/-! ## Replies -/

/-- What a command comes to when it goes well. -/
inductive Gain where
  | nothing
  | count (n : Nat)
  | summary (s : Summary)

/-- The same error, but for the failure of a hook or callback. -/
inductive HostError.Alike (L : Leeway) : HostError → HostError → Prop where
  | plugin {e e' : PluginError} : PluginError.Alike L e e' → Alike L (.plugin e) (.plugin e')
  | registration (e : RegistrationError) : Alike L (.registration e) (.registration e)
  | transaction {e e' : TransactionError} : TransactionError.Alike L e e' →
      Alike L (.transaction e) (.transaction e')
  | config (e : ConfigError) : Alike L (.config e) (.config e)
  | component {stage : Stage} {name : String} {e e' : HostError} : Alike L e e' →
      Alike L (.component stage name e) (.component stage name e')
  | refused (r : Refusal) : Alike L (.refused r) (.refused r)
  | other (text : String) : Alike L (.other text) (.other text)

/-- The same reply, but for the failure of a hook or callback in its error. -/
abbrev LikeReply (L : Leeway) : Except HostError Gain → Except HostError Gain → Prop :=
  Likewise (HostError.Alike L) Eq

/-- What comes of a registration, a phase or a transaction, as a reply. -/
def replyOf {α ε : Type} (gain : α → Gain) (wrap : ε → HostError) (r : Except ε α) :
    Except HostError Gain :=
  (r.map gain).mapError wrap

theorem Likewise.reply {α ε : Type} {E : ε → ε → Prop} {gain : α → Gain} {wrap : ε → HostError}
    {r r' : Except ε α} (h : Likewise E Eq r r')
    (hwrap : ∀ e e', E e e' → HostError.Alike L (wrap e) (wrap e')) :
    LikeReply L (replyOf gain wrap r) (replyOf gain wrap r') :=
  (h.map fun _ _ ha => congrArg gain ha).mapError hwrap

theorem errorOf?_ok {α ε : Type} (wrap : ε → HostError) (a : α) :
    errorOf? wrap (.ok a : Except ε α) = none := rfl

theorem errorOf?_replyOf {α ε : Type} (gain : α → Gain) (wrap : ε → HostError) (r : Except ε α) :
    errorOf? id (replyOf gain wrap r) = errorOf? wrap r := by
  cases r <;> rfl

/-! ## Managers -/

namespace Manager

/-- Carries out a command and gives what comes of it. -/
def serve (m : Manager σ ν) (cfg : Config) :
    Command σ ν → Act σ (Event ν) (Except HostError Gain × Manager σ ν)
  | .register p => do
    let (r, m) ← m.register cfg p
    return (replyOf (fun _ => .nothing) .plugin r, m)
  | .load disk path => do
    let (r, m) ← m.loadPlugin disk cfg path
    return (replyOf (fun _ => .nothing) .plugin r, m)
  | .loadDir disk dir => do
    let (r, m) ← m.loadDir disk cfg dir
    return (replyOf .count .plugin r, m)
  | .setUp disk => do
    let (r, m) ← m.setUp disk cfg
    return (replyOf (fun _ => .nothing) .plugin r, m)
  | .setStartArgs args => pure (.ok .nothing, m.setStartArgs args)
  | .start => do return (replyOf (fun _ => .nothing) .plugin (← m.start cfg), m)
  | .reset => do return (replyOf (fun _ => .nothing) .plugin (← m.dispatcher.reset cfg), m)
  | .commit tx => do return (replyOf .summary .transaction (← m.dispatcher.commit cfg tx), m)
  | .validate tx => do return (replyOf .summary .transaction (← m.dispatcher.validate cfg tx), m)
  | .stop => do return (.ok .nothing, ← m.stop cfg)

theorem tell_eq (m : Manager σ ν) (cfg : Config) (c : Command σ ν) :
    m.tell cfg c = do
      let (r, m) ← m.serve cfg c
      return (errorOf? id r, m) := by
  funext s
  cases c <;>
    simp only [tell, serve, Act.run_bind, Act.run_pure, List.append_nil, errorOf?_replyOf,
      errorOf?_ok]

/-- The same command, with plugins and libraries that are alike. -/
inductive Command.Alike (L : Leeway) : Command σ ν → Command σ ν → Prop where
  | register {p p' : Plugin σ ν} : Plugin.Alike L p p' → Alike L (.register p) (.register p')
  | load {disk disk' : Disk σ ν} (path : Path) : Disk.Alike L disk disk' →
      Alike L (.load disk path) (.load disk' path)
  | loadDir {disk disk' : Disk σ ν} (dir : Path) : Disk.Alike L disk disk' →
      Alike L (.loadDir disk dir) (.loadDir disk' dir)
  | setUp {disk disk' : Disk σ ν} : Disk.Alike L disk disk' → Alike L (.setUp disk) (.setUp disk')
  | setStartArgs {args : List String} : L.args args → Alike L (.setStartArgs args) (.setStartArgs args)
  | start : Alike L .start .start
  | reset : Alike L .reset .reset
  | commit (tx : Transaction) : Alike L (.commit tx) (.commit tx)
  | validate (tx : Transaction) : Alike L (.validate tx) (.validate tx)
  | stop : Alike L .stop .stop

/-- Managers with like dispatchers and the same start arguments, for which hooks are compared. -/
structure Alike (L : Leeway) (m m' : Manager σ ν) : Prop where
  loader : m.loader = m'.loader
  dispatcher : Dispatcher.Alike L m.dispatcher m'.dispatcher
  startArgs : m.startArgs = m'.startArgs
  compared : L.args m.startArgs

namespace Alike

variable {m m' : Manager σ ν} {cfg : Config} {disk disk' : Disk σ ν}

theorem within (h : Alike L m m') {d d' : Dispatcher σ ν} (hd : Dispatcher.Alike L d d') :
    Alike L (m.within d) (m'.within d') := ⟨h.loader, hd, h.startArgs, h.compared⟩

theorem setStartArgs (h : Alike L m m') {args : List String} (ha : L.args args) :
    Alike L (m.setStartArgs args) (m'.setStartArgs args) := ⟨h.loader, h.dispatcher, rfl, ha⟩

theorem register (h : Alike L m m') {p p' : Plugin σ ν} (hp : Plugin.Alike L p p') :
    Twins (Both (Likewise (PluginError.Alike L) Eq) (Alike L)) (m.register cfg p)
      (m'.register cfg p') :=
  (h.dispatcher.register hp).bind fun _ _ hr => Twins.pure ⟨hr.fst, h.within hr.snd⟩

theorem loadPlugin (h : Alike L m m') (hdisk : Disk.Alike L disk disk') (path : Path) :
    Twins (Both (Likewise (PluginError.Alike L) Eq) (Alike L)) (m.loadPlugin disk cfg path)
      (m'.loadPlugin disk' cfg path) :=
  (h.dispatcher.loadAll fun path _ => hdisk.load path).bind fun _ _ hr =>
    Twins.pure ⟨hr.fst.map fun _ _ _ => rfl, h.within hr.snd⟩

theorem discoverDir (h : Alike L m m') (hdisk : Disk.Alike L disk disk') (dir : Path) :
    Twins (Likewise (PluginError.Alike L) Eq) (m.loader.discoverDir disk dir)
      (m'.loader.discoverDir disk' dir) := by
  unfold Loader.discoverDir
  rw [h.loader, hdisk.list]
  refine (Twins.refl _).bind fun s s' hs => ?_
  subst hs
  cases disk'.list s dir with
  | error cause => exact Twins.pure (.error (.directory dir cause))
  | ok entries => exact (Twins.refl _).bind fun _ _ _ => Twins.log_bind (Twins.pure (.ok rfl))

theorem loadDir (h : Alike L m m') (hdisk : Disk.Alike L disk disk') (dir : Path) :
    Twins (Both (Likewise (PluginError.Alike L) Eq) (Alike L)) (m.loadDir disk cfg dir)
      (m'.loadDir disk' cfg dir) := by
  unfold Manager.loadDir
  refine (h.discoverDir hdisk dir).bind_result (fun _ _ he => Twins.pure ⟨.error he, h⟩) ?_
  intro paths paths' hpaths
  subst hpaths
  exact Twins.log_bind ((h.dispatcher.loadAll fun path _ => hdisk.load path).bind fun _ _ hr =>
    Twins.pure ⟨hr.fst, h.within hr.snd⟩)

theorem loadDirs (h : Alike L m m') (hdisk : Disk.Alike L disk disk') (total : Nat)
    (dirs : List Path) :
    Twins (Both (Likewise (PluginError.Alike L) Eq) (Alike L)) (m.loadDirs disk cfg total dirs)
      (m'.loadDirs disk' cfg total dirs) := by
  induction dirs generalizing m m' total with
  | nil => exact Twins.pure ⟨.ok rfl, h⟩
  | cons dir dirs ih =>
    unfold Manager.loadDirs
    refine (h.loadDir hdisk dir).bind_pair (fun _ _ _ _ he hm => Twins.pure ⟨.error he, hm⟩) ?_
    intro n n' m m' hn hm
    subst hn
    exact ih hm n

theorem setUp (h : Alike L m m') (hdisk : Disk.Alike L disk disk') :
    Twins (Both (Likewise (PluginError.Alike L) Eq) (Alike L)) (m.setUp disk cfg)
      (m'.setUp disk' cfg) := by
  unfold Manager.setUp
  rw [h.loader]
  refine Twins.log_bind ((h.loadDirs hdisk 0 m'.loader.dirs).bind_pair ?_ ?_)
  · exact fun _ _ _ _ he hm => Twins.pure ⟨.error he, hm⟩
  · exact fun _ _ _ _ _ hm => Twins.log_bind (Twins.pure ⟨.ok rfl, hm⟩)

theorem start (h : Alike L m m') :
    Twins (Likewise (PluginError.Alike L) Eq) (m.start cfg) (m'.start cfg) := by
  unfold Manager.start
  rw [← h.startArgs]
  exact Twins.log_bind (h.dispatcher.start h.compared)

theorem stop (h : Alike L m m') : Twins (Alike L) (m.stop cfg) (m'.stop cfg) := by
  unfold Manager.stop
  refine Twins.log_bind (h.dispatcher.exit.bind fun n n' hn => ?_)
  subst hn
  have hrest : Twins (Alike L) (do return m.within (← m.dispatcher.teardown))
      (do return m'.within (← m'.dispatcher.teardown)) :=
    h.dispatcher.teardown.bind fun _ _ hd => Twins.pure (h.within hd)
  by_cases hn : 0 < n
  · simp only [if_pos hn]
    exact Twins.log_bind hrest
  · simp only [if_neg hn]
    exact hrest

theorem serve (h : Alike L m m') {c c' : Command σ ν} (hc : Command.Alike L c c') :
    Twins (Both (LikeReply L) (Alike L)) (m.serve cfg c) (m'.serve cfg c') := by
  cases hc with
  | register hp =>
    exact (h.register hp).bind fun _ _ hr => Twins.pure ⟨hr.fst.reply fun _ _ => .plugin, hr.snd⟩
  | load path hdisk =>
    exact (h.loadPlugin hdisk path).bind fun _ _ hr =>
      Twins.pure ⟨hr.fst.reply fun _ _ => .plugin, hr.snd⟩
  | loadDir dir hdisk =>
    exact (h.loadDir hdisk dir).bind fun _ _ hr =>
      Twins.pure ⟨hr.fst.reply fun _ _ => .plugin, hr.snd⟩
  | setUp hdisk =>
    exact (h.setUp hdisk).bind fun _ _ hr =>
      Twins.pure ⟨hr.fst.reply fun _ _ => .plugin, hr.snd⟩
  | setStartArgs ha => exact Twins.pure ⟨.ok rfl, h.setStartArgs ha⟩
  | start => exact h.start.bind fun _ _ hr => Twins.pure ⟨hr.reply fun _ _ => .plugin, h⟩
  | reset =>
    exact h.dispatcher.reset.bind fun _ _ hr => Twins.pure ⟨hr.reply fun _ _ => .plugin, h⟩
  | commit tx =>
    exact h.dispatcher.commit.bind fun _ _ hr => Twins.pure ⟨hr.reply fun _ _ => .transaction, h⟩
  | validate tx =>
    exact h.dispatcher.validate.bind fun _ _ hr => Twins.pure ⟨hr.reply fun _ _ => .transaction, h⟩
  | stop => exact h.stop.bind fun _ _ hm => Twins.pure ⟨.ok rfl, hm⟩

end Alike

end Manager

/-! ## Backends -/

namespace Backend

def serve (b : Backend σ ν) : Command σ ν → Act σ (Event ν) (Except HostError Gain × Backend σ ν)
  | .register p => do
    let (r, b) ← b.register p
    return (replyOf (fun _ => .nothing) id r, b)
  | .setUp disk => do
    let (r, b) ← b.setUp disk
    return (replyOf (fun _ => .nothing) id r, b)
  | .start args => do
    let (r, b) ← b.start args
    return (replyOf (fun _ => .nothing) id r, b)
  | .run disk args => do
    let (r, b) ← b.run disk args
    return (replyOf (fun _ => .nothing) id r, b)
  | .reset => do return (replyOf (fun _ => .nothing) id (← b.reset), b)
  | .commit changes => do
    let (r, b) ← b.commit changes
    return (replyOf .summary id r, b)
  | .validate changes => do
    let (r, b) ← b.validate changes
    return (replyOf .summary id r, b)
  | .shutdown => do return (.ok .nothing, ← b.shutdown)
  | .manager c => do
    let (r, m) ← b.manager.serve b.config c
    return (r, b.within m)

theorem tell_eq (b : Backend σ ν) (c : Command σ ν) :
    b.tell c = do
      let (r, b) ← b.serve c
      return (errorOf? id r, b) := by
  funext s
  cases c <;>
    simp only [tell, serve, Manager.tell_eq, Act.run_bind, Act.run_pure, List.append_nil,
      errorOf?_replyOf, errorOf?_ok]

inductive Command.Alike (L : Leeway) : Command σ ν → Command σ ν → Prop where
  | register {p p' : Plugin σ ν} : Plugin.Alike L p p' → Alike L (.register p) (.register p')
  | setUp {disk disk' : Disk σ ν} : Disk.Alike L disk disk' → Alike L (.setUp disk) (.setUp disk')
  | start {args : List String} : L.args args → Alike L (.start args) (.start args)
  | run {disk disk' : Disk σ ν} {args : List String} : Disk.Alike L disk disk' → L.args args →
      Alike L (.run disk args) (.run disk' args)
  | reset : Alike L .reset .reset
  | commit (changes : ChangeSet) : Alike L (.commit changes) (.commit changes)
  | validate (changes : ChangeSet) : Alike L (.validate changes) (.validate changes)
  | shutdown : Alike L .shutdown .shutdown
  | manager {c c' : Manager.Command σ ν} : Manager.Command.Alike L c c' →
      Alike L (.manager c) (.manager c')

/-- The same backends, but for plugins and dependencies that are alike. -/
structure Alike (L : Leeway) (b b' : Backend σ ν) : Prop where
  config : b.config = b'.config
  isSetUp : b.isSetUp = b'.isSetUp
  isStarted : b.isStarted = b'.isStarted
  manager : Manager.Alike L b.manager b'.manager
  nextTransaction : b.nextTransaction = b'.nextTransaction

namespace Alike

variable {b b' : Backend σ ν} {disk disk' : Disk σ ν} {args : List String}

theorem within (h : Alike L b b') {m m' : Manager σ ν} (hm : Manager.Alike L m m') :
    Alike L (b.within m) (b'.within m') := ⟨h.config, h.isSetUp, h.isStarted, hm, h.nextTransaction⟩

theorem flagged (h : Alike L b b') (isSetUp isStarted : Bool) :
    Alike L (b.flagged isSetUp isStarted) (b'.flagged isSetUp isStarted) :=
  ⟨h.config, rfl, rfl, h.manager, h.nextTransaction⟩

theorem managerError {e e' : PluginError} (stage : Stage) (h : PluginError.Alike L e e') :
    HostError.Alike L (managerError stage e) (Backend.managerError stage e') := .component (.plugin h)

theorem register (h : Alike L b b') {p p' : Plugin σ ν} (hp : Plugin.Alike L p p') :
    Twins (Both (Likewise (HostError.Alike L) Eq) (Alike L)) (b.register p) (b'.register p') := by
  unfold Backend.register
  rw [← h.config]
  exact (h.manager.register hp).bind fun _ _ hr =>
    Twins.pure ⟨hr.fst.mapError fun _ _ => .plugin, h.within hr.snd⟩

theorem reset (h : Alike L b b') :
    Twins (Likewise (HostError.Alike L) Eq) b.reset b'.reset := by
  unfold Backend.reset
  rw [← h.config]
  exact Twins.log_bind (h.manager.dispatcher.reset.bind fun _ _ hr =>
    Twins.pure (hr.mapError fun _ _ => managerError .reset))

theorem setUp (h : Alike L b b') (hdisk : Disk.Alike L disk disk') :
    Twins (Both (Likewise (HostError.Alike L) Eq) (Alike L)) (b.setUp disk) (b'.setUp disk') := by
  unfold Backend.setUp
  rw [← h.isSetUp, ← h.config]
  split
  · exact Twins.pure ⟨.error (.refused _), h⟩
  refine Twins.log_bind (Twins.log_bind ((h.manager.setUp hdisk).bind_pair ?_ ?_))
  · exact fun _ _ _ _ he hm => Twins.pure ⟨.error (managerError .setUp he), h.within hm⟩
  intro _ _ m m' _ hm
  have hup : Alike L ((b.within m).flagged true (b.within m).isStarted)
      ((b'.within m').flagged true (b'.within m').isStarted) :=
    ⟨h.config, rfl, h.isStarted, hm, h.nextTransaction⟩
  dsimp only
  rw [← hup.config]
  split
  · exact hup.reset.bind_result (fun _ _ he => Twins.pure ⟨.error he, hup⟩)
      fun _ _ _ => Twins.log_bind (Twins.pure ⟨.ok rfl, hup⟩)
  · have hnone : Twins (Likewise (HostError.Alike L) Eq)
        (pure (.ok ()) : Act σ (Event ν) (Except HostError Unit)) (pure (.ok ())) :=
      Twins.pure (.ok rfl)
    exact hnone.bind_result (fun _ _ he => Twins.pure ⟨.error he, hup⟩)
      fun _ _ _ => Twins.log_bind (Twins.pure ⟨.ok rfl, hup⟩)

theorem start (h : Alike L b b') (ha : L.args args) :
    Twins (Both (Likewise (HostError.Alike L) Eq) (Alike L)) (b.start args) (b'.start args) := by
  have hready := h.within (h.manager.setStartArgs ha)
  unfold Backend.start
  rw [← h.isSetUp, ← h.isStarted]
  split
  · exact Twins.pure ⟨.error (.refused _), h⟩
  refine Twins.log_bind (Twins.log_bind ?_)
  rw [← hready.config, ← hready.isSetUp]
  exact hready.manager.start.bind_result
    (fun _ _ he => Twins.pure ⟨.error (managerError .start he), hready⟩)
    fun _ _ _ => Twins.log_bind (Twins.pure ⟨.ok rfl, hready.flagged _ true⟩)

theorem run (h : Alike L b b') (hdisk : Disk.Alike L disk disk') (ha : L.args args) :
    Twins (Both (Likewise (HostError.Alike L) Eq) (Alike L)) (b.run disk args)
      (b'.run disk' args) :=
  (h.setUp hdisk).bind_pair (fun _ _ _ _ he hb => Twins.pure ⟨.error he, hb⟩)
    fun _ _ _ _ _ hb => hb.start ha

theorem newTransaction (h : Alike L b b') (changes : ChangeSet) :
    (b.newTransaction changes).1 = (b'.newTransaction changes).1 ∧
      Alike L (b.newTransaction changes).2 (b'.newTransaction changes).2 := by
  unfold Backend.newTransaction
  rw [h.nextTransaction, h.config]
  exact ⟨rfl, rfl, h.isSetUp, h.isStarted, h.manager, rfl⟩

theorem commit (h : Alike L b b') (changes : ChangeSet) :
    Twins (Both (Likewise (HostError.Alike L) Eq) (Alike L)) (b.commit changes)
      (b'.commit changes) := by
  obtain ⟨htx, hb⟩ := h.newTransaction changes
  unfold Backend.commit
  rw [← h.isSetUp]
  split
  · simp only [← htx, ← hb.config]
    exact hb.manager.dispatcher.commit.bind fun _ _ hr =>
      Twins.pure ⟨hr.mapError fun _ _ => .transaction, hb⟩
  · exact Twins.pure ⟨.error (.refused _), h⟩

theorem validate (h : Alike L b b') (changes : ChangeSet) :
    Twins (Both (Likewise (HostError.Alike L) Eq) (Alike L)) (b.validate changes)
      (b'.validate changes) := by
  obtain ⟨htx, hb⟩ := h.newTransaction changes
  unfold Backend.validate
  rw [← h.isSetUp]
  split
  · simp only [← htx, ← hb.config]
    exact hb.manager.dispatcher.validate.bind fun _ _ hr =>
      Twins.pure ⟨hr.mapError fun _ _ => .transaction, hb⟩
  · exact Twins.pure ⟨.error (.refused _), h⟩

theorem shutdown (h : Alike L b b') : Twins (Alike L) b.shutdown b'.shutdown := by
  unfold Backend.shutdown
  rw [← h.config]
  exact Twins.log_bind (Twins.log_bind (h.manager.stop.bind fun _ _ hm =>
    Twins.log_bind (Twins.pure ((h.within hm).flagged false false))))

/-- Like commands to like backends are twins. -/
theorem serve (h : Alike L b b') {c c' : Command σ ν} (hc : Command.Alike L c c') :
    Twins (Both (LikeReply L) (Alike L)) (b.serve c) (b'.serve c') := by
  cases hc with
  | register hp =>
    exact (h.register hp).bind fun _ _ hr => Twins.pure ⟨hr.fst.reply fun _ _ he => he, hr.snd⟩
  | setUp hdisk =>
    exact (h.setUp hdisk).bind fun _ _ hr => Twins.pure ⟨hr.fst.reply fun _ _ he => he, hr.snd⟩
  | start ha =>
    exact (h.start ha).bind fun _ _ hr => Twins.pure ⟨hr.fst.reply fun _ _ he => he, hr.snd⟩
  | run hdisk ha =>
    exact (h.run hdisk ha).bind fun _ _ hr => Twins.pure ⟨hr.fst.reply fun _ _ he => he, hr.snd⟩
  | reset => exact h.reset.bind fun _ _ hr => Twins.pure ⟨hr.reply fun _ _ he => he, h⟩
  | commit changes =>
    exact (h.commit changes).bind fun _ _ hr => Twins.pure ⟨hr.fst.reply fun _ _ he => he, hr.snd⟩
  | validate changes =>
    exact (h.validate changes).bind fun _ _ hr => Twins.pure ⟨hr.fst.reply fun _ _ he => he, hr.snd⟩
  | shutdown => exact h.shutdown.bind fun _ _ hb => Twins.pure ⟨.ok rfl, hb⟩
  | manager hc =>
    simp only [Backend.serve, ← h.config]
    exact (h.manager.serve hc).bind fun _ _ hr => Twins.pure ⟨hr.fst, h.within hr.snd⟩

end Alike

end Backend

end PluginHost
