import Mathlib.Data.List.Forall2
import PluginHost.CommandLine
import PluginHost.Proofs.Backend
import PluginHost.Proofs.Dispatcher.Exits

/-!
# Commands clean up

A command does one task after another, up to the first that fails, and shuts its backend down in any
case.  So every plugin that was admitted while it worked is called by its exit hook, after all other
calls and whether or not the work failed; and how the command ends is told by its tasks alone.

    the work of a command plays the loading of plugins, and more                      (leads_work)
    its result is that of its tasks, one after another                                (tells_work)
    exit hooks last, in the order of registration; failed just if a task failed         (cleans_up)
-/

namespace PluginHost.CommandLine

variable {σ ν : Type}

/-! ## Tasks -/

/-- What a command works on: the backend, and the changes that it was given. -/
structure Desk (σ ν : Type) where
  backend : Backend σ ν
  changes : ChangeSet

/-- Commits or validates a change set. -/
def cycle (validateOnly : Bool) (b : Backend σ ν) (changes : ChangeSet) :
    Act σ (Event ν) (Except HostError Summary × Backend σ ν) :=
  if validateOnly then b.validate changes else b.commit changes

theorem commitFile_eq (out : Outside σ ν) (file : Path) (validateOnly : Bool) (b : Backend σ ν) :
    commitFile out file validateOnly b = do
      match readChanges out (← Act.get) file with
      | .error e => return ⟨.error e, [], b⟩
      | .ok changes =>
        let (result, b) ← b.run out.disk []
        match result with
        | .error e => return ⟨.error e, [], b⟩
        | .ok () =>
          let (result, b) ← cycle validateOnly b changes
          match result with
          | .error e => return ⟨.error e, [], b⟩
          | .ok summary => return ⟨.ok (), [summaryLine summary], b⟩ := by
  cases validateOnly <;> rfl

/-- A step of the work of a command, which may fail. -/
abbrev Task (σ ν : Type) : Type := Desk σ ν → Act σ (Event ν) (Except HostError Unit × Desk σ ν)

namespace Task

def read (out : Outside σ ν) (file : Path) : Task σ ν := fun desk => do
  match readChanges out (← Act.get) file with
  | .error e => return (.error e, desk)
  | .ok changes => return (.ok (), ⟨desk.backend, changes⟩)

/-- Loads all plugins, and resets them if so configured. -/
def setUp (out : Outside σ ν) : Task σ ν := fun desk => do
  let (r, b) ← desk.backend.setUp out.disk
  return (r, ⟨b, desk.changes⟩)

def start (args : List String) : Task σ ν := fun desk => do
  let (r, b) ← desk.backend.start args
  return (r, ⟨b, desk.changes⟩)

def cycle (validateOnly : Bool) : Task σ ν := fun desk => do
  let (r, b) ← CommandLine.cycle validateOnly desk.backend desk.changes
  return (r.map fun _ => (), ⟨b, desk.changes⟩)

/-- Does tasks one after another, whatever comes of them. -/
def doAll : List (Task σ ν) → Desk σ ν → Act σ (Event ν) (Desk σ ν)
  | [], desk => pure desk
  | t :: tasks, desk => do doAll tasks (← t desk).2

/-- What comes of a task after others. -/
def resultAfter (before : List (Task σ ν)) (t : Task σ ν) (desk : Desk σ ν) (s : σ) :
    Except HostError Unit :=
  let r := doAll before desk s
  (t r.value r.state).value.1

/-- Every task succeeds after those before it. -/
def AllSucceed (tasks : List (Task σ ν)) (desk : Desk σ ν) (s : σ) : Prop :=
  ∀ before t after, tasks = before ++ t :: after → resultAfter before t desk s = .ok ()

/-- The first task that fails does so with an error. -/
def FirstFails (tasks : List (Task σ ν)) (desk : Desk σ ν) (s : σ) (e : HostError) : Prop :=
  ∃ before t after, tasks = before ++ t :: after ∧ AllSucceed before desk s ∧
    resultAfter before t desk s = .error e

/-- Does tasks one after another, up to the first that fails. -/
def follow : List (Task σ ν) → Task σ ν
  | [], desk => pure (.ok (), desk)
  | t :: tasks, desk => do
    let (r, desk) ← t desk
    match r with
    | .error e => return (.error e, desk)
    | .ok () => follow tasks desk

variable {t : Task σ ν} {tasks : List (Task σ ν)} {desk : Desk σ ν} {s : σ}

theorem allSucceed_cons : AllSucceed (t :: tasks) desk s ↔
    (t desk s).value.1 = .ok () ∧ AllSucceed tasks (t desk s).value.2 (t desk s).state := by
  constructor
  · intro h
    refine ⟨h [] t tasks rfl, fun before u after htasks => ?_⟩
    exact h (t :: before) u after (congrArg (t :: ·) htasks)
  · rintro ⟨hfirst, hrest⟩ before u after h
    rcases List.cons_eq_append_iff.1 h with ⟨rfl, hu⟩ | ⟨before, rfl, htasks⟩
    · cases hu
      exact hfirst
    · exact hrest before u after htasks

theorem firstFails_cons {e : HostError} : FirstFails (t :: tasks) desk s e ↔
    (t desk s).value.1 = .error e ∨
      (t desk s).value.1 = .ok () ∧ FirstFails tasks (t desk s).value.2 (t desk s).state e := by
  refine (exists_split_cons t tasks).trans (or_congr ?_ ?_)
  · have hnone : AllSucceed [] desk s := by
      intro before u after h
      simp at h
    exact ⟨fun h => h.2, fun h => ⟨hnone, h⟩⟩
  · constructor
    · rintro ⟨before, u, after, htasks, hbefore, hu⟩
      exact ⟨(allSucceed_cons.1 hbefore).1, before, u, after, htasks,
        (allSucceed_cons.1 hbefore).2, hu⟩
    · rintro ⟨hfirst, before, u, after, htasks, hbefore, hu⟩
      exact ⟨before, u, after, htasks, allSucceed_cons.2 ⟨hfirst, hbefore⟩, hu⟩

/-- Tasks come to what the first failure among them comes to. -/
theorem follow_cases (tasks : List (Task σ ν)) (desk : Desk σ ν) (s : σ) :
    (follow tasks desk s).value.1 = .ok () ∧ AllSucceed tasks desk s ∨
      ∃ e, (follow tasks desk s).value.1 = .error e ∧ FirstFails tasks desk s e := by
  induction tasks generalizing desk s with
  | nil =>
    refine .inl ⟨rfl, fun before u after h => ?_⟩
    simp at h
  | cons t tasks ih =>
    rw [allSucceed_cons]
    simp only [firstFails_cons]
    unfold follow
    simp only [Act.run_bind]
    cases hr : (t desk s).value.1 with
    | error e => exact .inr ⟨e, rfl, .inl rfl⟩
    | ok u =>
      rcases ih (t desk s).value.2 (t desk s).state with ⟨hv, hall⟩ | ⟨e, hv, hfails⟩
      · exact .inl ⟨hv, rfl, hall⟩
      · exact .inr ⟨e, hv, .inr ⟨rfl, hfails⟩⟩

theorem FirstFails.not_allSucceed {e : HostError} (h : FirstFails tasks desk s e) :
    ¬ AllSucceed tasks desk s := by
  obtain ⟨before, t, after, htasks, -, ht⟩ := h
  intro hall
  rw [hall before t after htasks] at ht
  cases ht

end Task

def Command.tasks (out : Outside σ ν) : Command → List (Task σ ν)
  | .run _ _ args => [.setUp out, .start args]
  | .list => [.setUp out]
  | .commit file validateOnly =>
    [.read out (.ofString file), .setUp out, .start [], .cycle validateOnly]

/-! ## What the work of a command comes to -/

variable (out : Outside σ ν) (b : Backend σ ν) (changes : ChangeSet) (s : σ)

/-- The work came to a result, without a line if that is an error. -/
inductive Work.Tells : Work σ ν → Except HostError Unit → Prop where
  | ok (lines : List String) (b : Backend σ ν) : Tells ⟨.ok (), lines, b⟩ (.ok ())
  | error (e : HostError) (b : Backend σ ν) : Tells ⟨.error e, [], b⟩ (.error e)

theorem tells_runPlugins (args : List String) :
    (runPlugins out args b s).value.Tells
      (Task.follow [.setUp out, .start args] ⟨b, changes⟩ s).value.1 := by
  simp only [runPlugins, Backend.run, Task.follow, Task.setUp, Task.start, Act.run_bind, Act.run_pure]
  obtain ⟨⟨r, b₁⟩, s₁, -⟩ := b.setUp out.disk s
  cases r with
  | error e => exact .error _ _
  | ok u =>
    simp only [Act.run_bind, Act.run_pure]
    obtain ⟨⟨r, b₂⟩, s₂, -⟩ := b₁.start args s₁
    cases r with
    | error e => exact .error _ _
    | ok u => exact .ok _ _

theorem tells_listPlugins :
    (listPlugins out b s).value.Tells (Task.follow [.setUp out] ⟨b, changes⟩ s).value.1 := by
  simp only [listPlugins, Task.follow, Task.setUp, Act.run_bind, Act.run_pure]
  obtain ⟨⟨r, b₁⟩, s₁, -⟩ := b.setUp out.disk s
  cases r with
  | error e => exact .error _ _
  | ok u => cases b₁.manager.info <;> exact .ok _ _

theorem tells_commitFile (file : Path) (validateOnly : Bool) :
    (commitFile out file validateOnly b s).value.Tells
      (Task.follow [.read out file, .setUp out, .start [], .cycle validateOnly]
        ⟨b, changes⟩ s).value.1 := by
  simp only [commitFile_eq, Task.follow, Task.read, Act.get, Act.run_bind]
  -- each task ends the work with its error, or leaves its backend to the next
  cases readChanges out s file with
  | error e => exact .error _ _
  | ok read =>
    simp only [Backend.run, Task.setUp, Task.start, Act.run_bind, Act.run_pure]
    obtain ⟨⟨r, b₁⟩, s₁, -⟩ := b.setUp out.disk s
    cases r with
    | error e => exact .error _ _
    | ok u =>
      simp only [Act.run_bind, Act.run_pure]
      obtain ⟨⟨r, b₂⟩, s₂, -⟩ := b₁.start [] s₁
      cases r with
      | error e => exact .error _ _
      | ok u =>
        simp only [Task.cycle, Act.run_bind]
        obtain ⟨⟨r, b₃⟩, s₃, -⟩ := cycle validateOnly b₂ read s₂
        cases r with
        | error e => exact .error _ _
        | ok summary => exact .ok _ _

/-- The work of a command comes to what its tasks come to, one after another. -/
theorem tells_work (c : Command) :
    (c.work out b s).value.Tells (Task.follow (c.tasks out) ⟨b, changes⟩ s).value.1 := by
  cases c with
  | run once reset args => exact tells_runPlugins out b changes s args
  | list => exact tells_listPlugins out b changes s
  | commit file validateOnly => exact tells_commitFile out b changes s (.ofString file) validateOnly

/-! ## What plugins are asked to do -/

/-- What a command has its plugins do at the most, once they are loaded. -/
def Command.Duties (cfg : Config) : Command → List (Move σ ν) → Prop
  | .run _ _ args, moves => moves = [.reset cfg, .start cfg args]
  | .list, moves => moves = [.reset cfg]
  | .commit _ validateOnly, moves => ∃ tx,
    moves = [.reset cfg, .start cfg [], if validateOnly then .validate cfg tx else .commit cfg tx]

/-- The moves that the work of a command may come to: plugins are loaded, and some of what they are to
do is done. -/
def Command.Spells (cfg : Config) (c : Command) (moves : List (Move σ ν)) : Prop :=
  ∃ loads duties done, Move.Loading out.disk cfg loads ∧ c.Duties cfg duties ∧
    done.Sublist duties ∧ moves = loads ++ done

open Backend (Leads)

variable {out b s} {cfg : Config} {c : Command} {moves : List (Move σ ν)}

theorem Command.Duties.not_ends (h : c.Duties cfg moves) : ∀ m ∈ moves, m.ends = false := by
  cases c with
  | run once reset args =>
    obtain rfl := h
    simp [Move.ends]
  | list =>
    obtain rfl := h
    simp [Move.ends]
  | commit file validateOnly =>
    obtain ⟨tx, rfl⟩ := h
    cases validateOnly <;> simp [Move.ends]

/-- The work of a command ends the life of no plugin. -/
theorem Command.Spells.not_ends (h : c.Spells out cfg moves) : ∀ m ∈ moves, m.ends = false := by
  obtain ⟨loads, duties, done, hl, hd, hs, rfl⟩ := h
  intro m hm
  exact (List.mem_append.1 hm).elim (hl.not_ends m) fun hm => hd.not_ends m (hs.subset hm)

theorem leads_runPlugins (once reset : Bool) (args : List String) :
    ∃ w moves, (Command.run once reset args).Spells out b.config moves ∧
      Leads (runPlugins out args b) s w b moves w.backend := by
  obtain ⟨r, b', loads, done, hl, hd, h, hc⟩ := b.leads_run s out.disk args
  unfold runPlugins
  cases r with
  | error e =>
    exact ⟨⟨.error e, [], b'⟩, _, ⟨loads, _, done, hl, rfl, hd, rfl⟩,
      h.bind_quiet (Plays.pure _ _), hc⟩
  | ok u =>
    exact ⟨⟨.ok (), _, b'⟩, _, ⟨loads, _, done, hl, rfl, hd, rfl⟩,
      h.bind_quiet (Plays.pure _ _), hc⟩

theorem leads_listPlugins :
    ∃ w moves, Command.list.Spells out b.config moves ∧
      Leads (listPlugins out b) s w b moves w.backend := by
  obtain ⟨r, b', loads, done, hl, hd, h, hc⟩ := b.leads_setUp s out.disk
  have hspells : Command.list.Spells out b.config (loads ++ done) := ⟨loads, _, done, hl, rfl, hd, rfl⟩
  unfold listPlugins
  cases r with
  | error e => exact ⟨⟨.error e, [], b'⟩, _, hspells, h.bind_quiet (Plays.pure _ _), hc⟩
  | ok u =>
    cases hi : b'.manager.info with
    | nil =>
      refine ⟨⟨.ok (), ["No plugins loaded."], b'⟩, _, hspells, h.bind_quiet ?_, hc⟩
      simp only [hi]
      exact Plays.pure _ _
    | cons p ps =>
      refine ⟨⟨.ok (), "Loaded plugins:" :: (p :: ps).flatMap pluginLines, b'⟩, _, hspells,
        h.bind_quiet ?_, hc⟩
      simp only [hi]
      exact Plays.pure _ _

theorem leads_cycle (validateOnly : Bool) (changes : ChangeSet) :
    ∃ r b' tx done, done.Sublist
        [if validateOnly then Move.validate b.config tx else .commit b.config tx] ∧
      Leads (cycle validateOnly b changes) s (r, b') b done b' := by
  cases validateOnly with
  | false =>
    obtain ⟨r, b', id, done, hd, h⟩ := b.leads_commit s changes
    exact ⟨r, b', _, done, hd, h⟩
  | true =>
    obtain ⟨r, b', id, done, hd, h⟩ := b.leads_validate s changes
    exact ⟨r, b', _, done, hd, h⟩

theorem leads_commitFile (file : String) (validateOnly : Bool) :
    ∃ w moves, (Command.commit file validateOnly).Spells out b.config moves ∧
      Leads (commitFile out (.ofString file) validateOnly b) s w b moves w.backend := by
  have hget : Plays (Act.get : Act σ (Event ν) σ) s s b.manager.dispatcher [] b.manager.dispatcher :=
    Plays.quiet (Performs.get s)
  rw [commitFile_eq]
  cases hread : readChanges out s (.ofString file) with
  | error e =>
    -- no plugin is loaded yet
    refine ⟨⟨.error e, [], b⟩, [], ⟨[], _, [], .nil, ⟨.fresh 0 "" "" [], rfl⟩, List.nil_sublist _, rfl⟩,
      hget.quiet_bind ?_, rfl⟩
    rw [hread]
    exact Plays.pure _ _
  | ok changes =>
    obtain ⟨r, b₁, loads, done, hl, hd, h, hc⟩ := b.leads_run s out.disk []
    cases r with
    | error e =>
      refine ⟨⟨.error e, [], b₁⟩, loads ++ done, ⟨loads, _, done, hl, ⟨.fresh 0 "" "" [], rfl⟩,
        hd.trans (List.sublist_append_left _ _), rfl⟩, hget.quiet_bind ?_, hc⟩
      rw [hread]
      exact h.bind_quiet (Plays.pure _ _)
    | ok u =>
      obtain ⟨r, b₂, tx, last, hlast, h', hc'⟩ :=
        leads_cycle (b := b₁) (s := (b.run out.disk [] s).state) validateOnly changes
      rw [hc] at hlast
      have hspells : (Command.commit file validateOnly).Spells out b.config (loads ++ done ++ last) :=
        ⟨loads, _, done ++ last, hl, ⟨tx, rfl⟩, hd.append hlast, List.append_assoc _ _ _⟩
      cases r with
      | error e =>
        refine ⟨⟨.error e, [], b₂⟩, _, hspells, hget.quiet_bind ?_, hc'.trans hc⟩
        rw [hread]
        exact h.bind (h'.bind_quiet (Plays.pure _ _))
      | ok summary =>
        refine ⟨⟨.ok (), [summaryLine summary], b₂⟩, _, hspells, hget.quiet_bind ?_, hc'.trans hc⟩
        rw [hread]
        exact h.bind (h'.bind_quiet (Plays.pure _ _))

variable (out b s) in
/-- The work of a command plays moves that the command spells. -/
theorem leads_work (c : Command) :
    ∃ w moves, c.Spells out b.config moves ∧ Leads (c.work out b) s w b moves w.backend := by
  cases c with
  | run once reset args => exact leads_runPlugins once reset args
  | list => exact leads_listPlugins
  | commit file validateOnly => exact leads_commitFile file validateOnly

/-! ## The whole command -/

/-- What lies on the desk at first: a new backend, and no changes. -/
def Desk.new (cfg : Config) : Desk σ ν := ⟨⟨cfg, false, false, .ofConfig cfg, 1⟩, ⟨none, none, []⟩⟩

theorem calls_shutdown (b : Backend σ ν) (s : σ) :
    calls (b.shutdown s).trace = b.manager.dispatcher.exitCalls := by
  obtain ⟨b', h, -⟩ := b.leads_shutdown s
  rw [h.calls, Dispatcher.play_singleton, Dispatcher.calls_stop]

def Work.report (w : Work σ ν) : Report :=
  match w.result with
  | .ok () => ⟨w.lines ++ ["Backend stopped"], none⟩
  | .error e => ⟨w.lines, some e⟩

theorem execute_eq (c : Command) (cfg : Config) :
    c.execute out cfg = do
      let b ← Backend.create (c.configure cfg)
      let w ← c.work out b
      let _ ← w.backend.shutdown
      return w.report := by
  unfold Command.execute
  congr 1
  funext b
  congr 1
  funext w
  congr 1
  funext _
  unfold Work.report
  cases w.result <;> rfl

variable (out) in
/-- How a command ends is told by its work, and exit hooks are called last. -/
theorem execute_work (c : Command) (cfg : Config) (s : σ) :
    let r := c.execute out cfg s
    let worked := c.work out (Desk.new (c.configure cfg)).backend s
    r.value = worked.value.report ∧
      calls r.trace = calls worked.trace ++ worked.value.backend.manager.dispatcher.exitCalls := by
  intro r worked
  have htrace : calls r.trace = calls (worked.trace ++
      ((worked.value.backend.shutdown worked.state).trace ++ [])) := by
    show calls (c.execute out cfg s).trace = _
    rw [execute_eq]
    rfl
  refine ⟨?_, ?_⟩
  · show (c.execute out cfg s).value = _
    rw [execute_eq]
    rfl
  · rw [htrace, List.append_nil, calls_append, calls_shutdown]

variable {args : List String} {o : Options}

/-- A program that is given a command executes it. -/
theorem program_execute (hargs : Request.of? args = some (.command o c))
    (hcfg : o.configuration out.read s = .ok cfg) :
    (program out args s).value = .ofReport (c.execute out cfg s).value ∧
      calls (program out args s).trace = calls (c.execute out cfg s).trace := by
  simp only [program, hargs, Act.run_bind, Act.get, hcfg, Act.run_pure, List.nil_append,
    List.append_nil, and_self]

/-- What comes of a command: it does its tasks, and cleans up. -/
structure CleansUp (out : Outside σ ν) (c : Command) (cfg : Config) (s : σ)
    (r : Ran σ (Event ν) Exit) : Prop where
  /-- The work has plugins loaded, and has them do what it spells.  The exit hooks of those that were
  registered, and whose init hooks did not fail, are called in the order of registration, each once,
  after all other calls. -/
  exits : ∃ moves, c.Spells out cfg moves ∧
    let worked := c.work out (Desk.new cfg).backend s
    let exits := Dispatcher.farewells (Dispatcher.empty.admitted moves s)
    Plays (c.work out (Desk.new cfg).backend) s worked.value .empty moves
      worked.value.backend.manager.dispatcher ∧
    calls r.trace = calls worked.trace ++ exits ∧
    (∀ call ∈ calls worked.trace, ∀ name, call ≠ .exit name) ∧ exits.Nodup
  /-- If all tasks succeed, so does the command, whatever comes of the exit hooks. -/
  succeeds : Task.AllSucceed (c.tasks out) (Desk.new cfg) s →
    ∃ lines, r.value = ⟨0, unlines (lines ++ ["Backend stopped"]), ""⟩
  /-- Otherwise it reports the first failure of a task. -/
  fails : ¬ Task.AllSucceed (c.tasks out) (Desk.new cfg) s →
    ∃ e, Task.FirstFails (c.tasks out) (Desk.new cfg) s e ∧ r.value = .failure [] e.message
  /-- Without its change set a commit calls no plugin. -/
  unread : ∀ file validateOnly e, c = .commit file validateOnly →
    readChanges out s (.ofString file) = .error e → calls r.trace = []

theorem Work.Tells.exit_of_ok {w : Work σ ν} (h : w.Tells (.ok ())) :
    Exit.ofReport w.report = ⟨0, unlines (w.lines ++ ["Backend stopped"]), ""⟩ := by
  cases h
  rfl

theorem Work.Tells.exit_of_error {w : Work σ ν} {e : HostError} (h : w.Tells (.error e)) :
    Exit.ofReport w.report = .failure [] e.message := by
  cases h
  rfl

/-- A commit that cannot read its change set does nothing. -/
theorem work_of_unread {file : String} {validateOnly : Bool} {e : HostError}
    (h : readChanges out s (.ofString file) = .error e) :
    (Command.commit file validateOnly).work out b s = ⟨⟨.error e, [], b⟩, s, []⟩ := by
  simp only [Command.work, commitFile_eq, Act.run_bind, Act.get, h, Act.run_pure, List.append_nil]

/-- Whatever its plugins do, and whether or not it fails, a command calls in the end the exit hooks of
all plugins that it registered and that did not fail to init; what it reports is told by its tasks
alone. -/
theorem cleans_up (hargs : Request.of? args = some (.command o c))
    (hcfg : o.configuration out.read s = .ok cfg) :
    CleansUp out c (c.configure cfg) s (program out args s) := by
  let desk : Desk σ ν := .new (c.configure cfg)
  obtain ⟨hvalue, hcalls⟩ := program_execute hargs hcfg
  obtain ⟨hreport, hexecuted⟩ := execute_work out c cfg s
  have htells := tells_work out desk.backend desk.changes s c
  rw [hreport] at hvalue
  rw [hexecuted] at hcalls
  refine ⟨?_, ?_, ?_, ?_⟩
  · obtain ⟨w, moves, hspells, h, -⟩ := leads_work out desk.backend s c
    obtain rfl := h.value
    obtain ⟨hdue, hbefore, honce⟩ := Dispatcher.exits_of_plays h hspells.not_ends
    exact ⟨moves, hspells, h, hdue ▸ hcalls, hbefore, honce⟩
  · intro hall
    rcases Task.follow_cases (c.tasks out) desk s with ⟨hv, -⟩ | ⟨e, -, hfails⟩
    · rw [hv] at htells
      exact ⟨_, hvalue.trans htells.exit_of_ok⟩
    · exact absurd hall hfails.not_allSucceed
  · intro hall
    rcases Task.follow_cases (c.tasks out) desk s with ⟨-, hsucceed⟩ | ⟨e, hv, hfails⟩
    · exact absurd hsucceed hall
    · rw [hv] at htells
      exact ⟨e, hfails, hvalue.trans htells.exit_of_error⟩
  · rintro file validateOnly e rfl hread
    rw [hcalls, work_of_unread hread]
    rfl

/-! ## Two in a house -/

/-- A house for two, of whom the second does not get in.  Both would fail to get out. -/
def house : Outside Unit Unit where
  disk := {
    list := fun _ _ => .ok [⟨Utf8.ofString "ann.so", .ok true⟩, ⟨Utf8.ofString "bob.so", .ok true⟩]
    load := fun _ path => .ok { Library.empty with
      init := some fun _ _ s =>
        .finish [] s (.status (if Loader.pluginName? path = some "bob" then -1 else 0))
      exit := some fun _ _ => pure (.status (-1)) } }
  read := fun _ _ => .error .notFound

def resident (file : String) : DirEntry := ⟨Utf8.ofString file, .ok true⟩

/-- The two are found in the order of their names. -/
theorem select_house :
    (Loader.ofConfig .standard).select Config.standard.backendDir
        [resident "ann.so", resident "bob.so"] =
      [.ofString "plugins/backend/ann.so", .ofString "plugins/backend/bob.so"] := by
  have hregular : ((Loader.ofConfig .standard).candidates Config.standard.backendDir
      [resident "ann.so", resident "bob.so"]).filter Loader.DirEntry.isRegular =
        [resident "ann.so", resident "bob.so"] := by with_unfolding_all rfl
  have hsorted : [resident "ann.so", resident "bob.so"].mergeSort
      (fun a b => Loader.bytesLe a.name b.name) = [resident "ann.so", resident "bob.so"] :=
    List.mergeSort_of_pairwise (by decide)
  rw [Loader.select, hregular, hsorted]
  decide +kernel

theorem exit_code_of_error {r : Report} (h : r.error.isSome = true) : (Exit.ofReport r).code = 1 := by
  obtain ⟨e, he⟩ := Option.isSome_iff_exists.1 h
  rw [Exit.ofReport, he]
  rfl

/-- The command fails, and the one who got in is seen out. -/
theorem cleans_up_house :
    let o : Options := ⟨none, none, none, none, false⟩
    let c : Command := .run true false []
    let r := program house ["run", "--once"] ()
    Request.of? ["run", "--once"] = some (.command o c) ∧
    o.configuration house.read () = .ok .standard ∧
    calls r.trace = [.init "ann", .init "bob", .exit "ann"] ∧ r.value.code = 1 ∧
    CleansUp house c .standard () r := by
  have hargs : Request.of? ["run", "--once"] =
      some (.command ⟨none, none, none, none, false⟩ (.run true false [])) := by decide +kernel
  have hcfg : Options.configuration ⟨none, none, none, none, false⟩ house.read () =
      .ok .standard := rfl
  have hdirs : (Loader.ofConfig .standard).dirs = [Config.standard.backendDir] := rfl
  have hlist : house.disk.list () Config.standard.backendDir =
      .ok [resident "ann.so", resident "bob.so"] := rfl
  have hrun : let r := (Command.run true false []).execute house .standard ()
      (calls r.trace, r.value.error.isSome) = ([.init "ann", .init "bob", .exit "ann"], true) := by
    -- only what is discovered does not compute, as a merge sort is part of it
    simp only [Command.execute, Command.configure, Command.work, runPlugins, Backend.create,
      Backend.run, Backend.setUp, Manager.ofConfig, Manager.setUp, Manager.loadDirs, Manager.loadDir,
      Loader.discoverDir, hdirs, hlist, select_house, Act.run_bind, Act.run_pure, Act.get,
      Bool.false_eq_true, if_false]
    with_unfolding_all rfl
  obtain ⟨hcalls, herror⟩ := Prod.mk.inj hrun
  obtain ⟨hvalue, htrace⟩ := program_execute hargs hcfg
  refine ⟨hargs, hcfg, htrace.trans hcalls, ?_, cleans_up hargs hcfg⟩
  exact (congrArg Exit.code hvalue).trans (exit_code_of_error herror)

end PluginHost.CommandLine
