import PluginHost.Manager
import PluginHost.Proofs.Dispatcher.Soundness

/-!
# The plugin manager plays moves

Whatever a plugin manager is told comes to moves of its dispatcher: loading registers plugins from a
disk, and stopping is one move.  Looking for plugins makes no move.

    setUp plays the registration of plugins that are loaded                          (plays_setUp)
    m.command cfg c plays moves that c spells                                      (plays_command)
-/

namespace PluginHost

variable {σ ν : Type}

/-! ## Finding plugins makes no move -/

namespace Loader

theorem performs_logSkipped (dir : Path) (entries : List DirEntry) (s : σ) :
    Performs (logSkipped dir entries : Act σ (Event ν) Unit) s () ([] : List (Step σ ν Unit)) := by
  induction entries generalizing s with
  | nil => exact Performs.pure _ _
  | cons e entries ih =>
    unfold logSkipped
    split
    · exact (Performs.pure _ s).quiet_bind (ih s)
    · exact (Performs.log _ _ s).quiet_bind (ih s)
    · exact (Performs.log _ _ s).quiet_bind (ih s)

theorem performs_discoverDir (l : Loader) (disk : Disk σ ν) (dir : Path) (s : σ) :
    ∃ r, Performs (l.discoverDir disk dir) s r ([] : List (Step σ ν Unit)) := by
  unfold discoverDir
  cases hl : disk.list s dir with
  | error cause =>
    refine ⟨.error (.directory dir cause), (Performs.get s).quiet_bind ?_⟩
    rw [hl]
    exact Performs.pure _ _
  | ok entries =>
    refine ⟨.ok (l.select dir entries), (Performs.get s).quiet_bind ?_⟩
    rw [hl]
    refine (performs_logSkipped dir _ s).quiet_bind ?_
    exact (Performs.log _ _ s).quiet_bind (Performs.pure _ _)

end Loader

/-- The registration of plugins that are loaded from a disk. -/
def Move.Loading (disk : Disk σ ν) (cfg : Config) (moves : List (Move σ ν)) : Prop :=
  ∃ loaded : List (Plugin σ ν), (∀ p ∈ loaded, ∃ path, Loader.Loads disk path p) ∧
    moves = loaded.map (.register cfg)

namespace Move.Loading

variable {disk : Disk σ ν} {cfg : Config} {moves more : List (Move σ ν)}

theorem nil : Loading disk cfg [] := ⟨[], by nofun, rfl⟩

theorem append (h : Loading disk cfg moves) (h' : Loading disk cfg more) :
    Loading disk cfg (moves ++ more) := by
  obtain ⟨loaded, hl, rfl⟩ := h
  obtain ⟨loaded', hl', rfl⟩ := h'
  refine ⟨loaded ++ loaded', fun p hp => ?_, (List.map_append).symm⟩
  exact (List.mem_append.1 hp).elim (hl p) (hl' p)

theorem of_forall₂ {paths : List Path} {loaded : List (Plugin σ ν)}
    (h : List.Forall₂ (Loader.Loads disk) paths loaded) :
    Loading disk cfg (loaded.map (.register cfg)) := by
  refine ⟨loaded, fun p hp => ?_, rfl⟩
  induction h with
  | nil => cases hp
  | cons hfirst _ ih =>
    rcases List.mem_cons.1 hp with rfl | hp
    · exact ⟨_, hfirst⟩
    · exact ih hp

theorem not_ends (h : Loading disk cfg moves) : ∀ m ∈ moves, m.ends = false := by
  obtain ⟨loaded, -, rfl⟩ := h
  intro m hm
  obtain ⟨p, -, rfl⟩ := List.mem_map.1 hm
  rfl

end Move.Loading

namespace Manager

/-! ## Commands -/

/-- What a plugin manager is told to do. -/
inductive Command (σ ν : Type) where
  | register (p : Plugin σ ν)
  | load (disk : Disk σ ν) (path : Path)
  | loadDir (disk : Disk σ ν) (dir : Path)
  | setUp (disk : Disk σ ν)
  | setStartArgs (args : List String)
  | start
  | reset
  | commit (tx : Transaction)
  | validate (tx : Transaction)
  | stop

def command (m : Manager σ ν) (cfg : Config) : Command σ ν → Act σ (Event ν) (Manager σ ν)
  | .register p => do return (← m.register cfg p).2
  | .load disk path => do return (← m.loadPlugin disk cfg path).2
  | .loadDir disk dir => do return (← m.loadDir disk cfg dir).2
  | .setUp disk => do return (← m.setUp disk cfg).2
  | .setStartArgs args => pure (m.setStartArgs args)
  | .start => do
    let _ ← m.start cfg
    return m
  | .reset => do
    let _ ← m.dispatcher.reset cfg
    return m
  | .commit tx => do
    let _ ← m.dispatcher.commit cfg tx
    return m
  | .validate tx => do
    let _ ← m.dispatcher.validate cfg tx
    return m
  | .stop => m.stop cfg

def Command.Spells (cfg : Config) : Command σ ν → List (Move σ ν) → Prop
  | .register p, moves => moves = [.register cfg p]
  | .load disk _, moves => Move.Loading disk cfg moves
  | .loadDir disk _, moves => Move.Loading disk cfg moves
  | .setUp disk, moves => Move.Loading disk cfg moves
  | .setStartArgs _, moves => moves = []
  | .start, moves => ∃ args, moves = [.start cfg args]
  | .reset, moves => moves = [.reset cfg]
  | .commit tx, moves => moves = [.commit cfg tx]
  | .validate tx, moves => moves = [.validate cfg tx]
  | .stop, moves => moves = [.stop cfg]

/-! ## What they come to -/

variable (m : Manager σ ν) (cfg : Config)

theorem plays_register (p : Plugin σ ν) (s : σ) :
    ∃ r m', Plays (m.register cfg p) s (r, m') m.dispatcher [.register cfg p] m'.dispatcher := by
  obtain ⟨r, d', h⟩ := Dispatcher.plays_register cfg m.dispatcher p s
  exact ⟨r, m.within d', h.bind_quiet (Plays.pure _ _)⟩

theorem plays_loadPlugin (disk : Disk σ ν) (path : Path) (s : σ) :
    ∃ r m' moves, Move.Loading disk cfg moves ∧
      Plays (m.loadPlugin disk cfg path) s (r, m') m.dispatcher moves m'.dispatcher := by
  obtain ⟨r, d', n, loaded, hl, h⟩ := Dispatcher.plays_loadAll cfg m.dispatcher disk [path] s
  exact ⟨_, m.within d', _, .of_forall₂ hl, h.bind_quiet (Plays.pure _ _)⟩

theorem plays_loadDir (disk : Disk σ ν) (dir : Path) (s : σ) :
    ∃ r m' moves, Move.Loading disk cfg moves ∧
      Plays (m.loadDir disk cfg dir) s (r, m') m.dispatcher moves m'.dispatcher := by
  obtain ⟨found, hf⟩ := m.loader.performs_discoverDir disk dir s
  unfold loadDir
  cases found with
  | error e => exact ⟨_, m, [], .nil, (Plays.quiet hf).quiet_bind (Plays.pure _ _)⟩
  | ok paths =>
    obtain ⟨r, d', n, loaded, hl, h⟩ := Dispatcher.plays_loadAll cfg m.dispatcher disk paths s
    exact ⟨r, m.within d', _, .of_forall₂ hl, (Plays.quiet hf).quiet_bind
      ((Plays.log _ _ s).quiet_bind (h.bind_quiet (Plays.pure _ _)))⟩

theorem plays_loadDirs (disk : Disk σ ν) (total : Nat) (dirs : List Path) (s : σ) :
    ∃ r m' moves, Move.Loading disk cfg moves ∧
      Plays (m.loadDirs disk cfg total dirs) s (r, m') m.dispatcher moves m'.dispatcher := by
  induction dirs generalizing m total s with
  | nil => exact ⟨_, m, [], .nil, Plays.pure _ _⟩
  | cons dir dirs ih =>
    obtain ⟨r, m₁, first, hl, h⟩ := plays_loadDir m cfg disk dir s
    unfold loadDirs
    cases r with
    | error e => exact ⟨_, m₁, first, hl, h.bind_quiet (Plays.pure _ _)⟩
    | ok total =>
      obtain ⟨r, m', rest, hl', h'⟩ := ih m₁ total (m.loadDir disk cfg dir s).state
      exact ⟨r, m', first ++ rest, hl.append hl', h.bind h'⟩

theorem plays_setUp (disk : Disk σ ν) (s : σ) :
    ∃ r m' moves, Move.Loading disk cfg moves ∧
      Plays (m.setUp disk cfg) s (r, m') m.dispatcher moves m'.dispatcher := by
  obtain ⟨r, m', moves, hl, h⟩ := plays_loadDirs m cfg disk 0 m.loader.dirs s
  unfold setUp
  cases r with
  | error e =>
    exact ⟨_, m', moves, hl, (Plays.log _ _ s).quiet_bind (h.bind_quiet (Plays.pure _ _))⟩
  | ok total =>
    exact ⟨_, m', moves, hl, (Plays.log _ _ s).quiet_bind
      (h.bind_quiet ((Plays.log _ _ _).quiet_bind (Plays.pure _ _)))⟩

theorem plays_start (s : σ) :
    ∃ r, Plays (m.start cfg) s r m.dispatcher [.start cfg m.startArgs] m.dispatcher :=
  ⟨_, (Plays.log _ _ s).quiet_bind (Plays.of_keeping rfl s)⟩

theorem plays_stop (s : σ) :
    ∃ m', Plays (m.stop cfg) s m' m.dispatcher [.stop cfg] m'.dispatcher := by
  have hexit : Plays (m.dispatcher.exit cfg) s _ m.dispatcher [.exit cfg] m.dispatcher :=
    Plays.of_keeping rfl s
  have hteardown : ∀ s, Plays m.dispatcher.teardown s m.dispatcher.forgotten m.dispatcher
      [.teardown] m.dispatcher.forgotten := fun s => Plays.of_move rfl rfl
  have hrest : ∀ s, Plays (do return m.within (← m.dispatcher.teardown)) s _ m.dispatcher
      [.teardown] m.dispatcher.forgotten := fun s => (hteardown s).bind_quiet (Plays.pure _ _)
  refine ⟨m.within m.dispatcher.forgotten, Plays.replace ?_ (m.dispatcher.play_stop cfg)⟩
  unfold stop
  refine (Plays.log _ _ s).quiet_bind (hexit.bind ?_)
  split
  · exact (Plays.log _ _ _).quiet_bind (hrest _)
  · exact (Plays.pure _ _).quiet_bind (hrest _)

theorem plays_command (c : Command σ ν) (s : σ) :
    ∃ m' moves, c.Spells cfg moves ∧ Plays (m.command cfg c) s m' m.dispatcher moves m'.dispatcher := by
  cases c with
  | register p =>
    obtain ⟨r, m', h⟩ := plays_register m cfg p s
    exact ⟨m', _, rfl, h.bind_quiet (Plays.pure _ _)⟩
  | load disk path =>
    obtain ⟨r, m', moves, hl, h⟩ := plays_loadPlugin m cfg disk path s
    exact ⟨m', moves, hl, h.bind_quiet (Plays.pure _ _)⟩
  | loadDir disk dir =>
    obtain ⟨r, m', moves, hl, h⟩ := plays_loadDir m cfg disk dir s
    exact ⟨m', moves, hl, h.bind_quiet (Plays.pure _ _)⟩
  | setUp disk =>
    obtain ⟨r, m', moves, hl, h⟩ := plays_setUp m cfg disk s
    exact ⟨m', moves, hl, h.bind_quiet (Plays.pure _ _)⟩
  | setStartArgs args => exact ⟨m.setStartArgs args, [], rfl, Plays.pure _ _⟩
  | start =>
    obtain ⟨r, h⟩ := plays_start m cfg s
    exact ⟨m, _, ⟨_, rfl⟩, h.bind_quiet (Plays.pure _ _)⟩
  | reset => exact ⟨m, _, rfl, Plays.of_move rfl rfl⟩
  | commit tx => exact ⟨m, _, rfl, Plays.of_move rfl rfl⟩
  | validate tx => exact ⟨m, _, rfl, Plays.of_move rfl rfl⟩
  | stop =>
    obtain ⟨m', h⟩ := plays_stop m cfg s
    exact ⟨m', _, rfl, h⟩

/-- The only end that a command comes to is a stop. -/
theorem Command.Spells.eq_stop {cfg : Config} {c : Command σ ν} {moves : List (Move σ ν)}
    (h : c.Spells cfg moves) {x : Move σ ν} (hx : x ∈ moves) (he : x.ends = true) :
    x = .stop cfg := by
  cases c with
  | load disk path => exact absurd he (Bool.eq_false_iff.1 (Move.Loading.not_ends h x hx))
  | loadDir disk dir => exact absurd he (Bool.eq_false_iff.1 (Move.Loading.not_ends h x hx))
  | setUp disk => exact absurd he (Bool.eq_false_iff.1 (Move.Loading.not_ends h x hx))
  | register p =>
    obtain rfl := List.mem_singleton.1 (h ▸ hx)
    cases he
  | setStartArgs args =>
    obtain rfl := h
    cases hx
  | start =>
    obtain ⟨args, rfl⟩ := h
    obtain rfl := List.mem_singleton.1 hx
    cases he
  | reset =>
    obtain rfl := List.mem_singleton.1 (h ▸ hx)
    cases he
  | commit tx =>
    obtain rfl := List.mem_singleton.1 (h ▸ hx)
    cases he
  | validate tx =>
    obtain rfl := List.mem_singleton.1 (h ▸ hx)
    cases he
  | stop => exact List.mem_singleton.1 (h ▸ hx)

end Manager

end PluginHost
