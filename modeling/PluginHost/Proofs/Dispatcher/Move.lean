import PluginHost.Dispatcher.Commit
import PluginHost.Loader
import PluginHost.Proofs.Dispatcher.Protocol
import PluginHost.Proofs.Dispatcher.Register

/-!
# Moves of a dispatcher

A host leads its dispatcher by moves: it registers plugins and dependencies, calls their hooks, has
transactions committed, and forgets everything.  `play` makes moves one after another.

`Plays m s a d moves d'` says that an act, run from a state, gives a value and does to the plugins'
state what the moves do, by the same calls, and that the moves lead from one dispatcher to the
other.  It follows the shape of acts as `Performs` does.

    d.play (moves ++ more) = d.play moves >>= fun d => d.play more                  (play_append)
    registerAll, loadAll play the registration of plugins     (plays_registerAll, plays_loadAll)
-/

namespace PluginHost

/-- What a dispatcher is asked to do, with the options that the hooks are given. -/
inductive Move (σ ν : Type) where
  | register (cfg : Config) (p : Plugin σ ν)
  | registerFor (plugin : String) (request : Request (Callback σ ν))
  | start (cfg : Config) (args : List String)
  | reset (cfg : Config)
  | exit (cfg : Config)
  | teardown
  | stop (cfg : Config)
  | enter (cfg : Config) (tx : Transaction) (phase : Phase)
  | commit (cfg : Config) (tx : Transaction)
  | validate (cfg : Config) (tx : Transaction)

variable {σ ν α β : Type}

/-- Whether all plugins are forgotten. -/
def Move.forgets : Move σ ν → Bool
  | .teardown => true
  | .stop _ => true
  | _ => false

/-- Whether exit hooks are called or all plugins are forgotten. -/
def Move.ends : Move σ ν → Bool
  | .exit _ => true
  | .teardown => true
  | .stop _ => true
  | _ => false

/-- A list with one item more is split at that item, or further on. -/
theorem exists_split_cons {P : List α → α → List α → Prop} (x : α) (l : List α) :
    (∃ before y after, x :: l = before ++ y :: after ∧ P before y after) ↔
      P [] x l ∨ ∃ before y after, l = before ++ y :: after ∧ P (x :: before) y after := by
  constructor
  · rintro ⟨before, y, after, h, hp⟩
    rcases List.cons_eq_append_iff.1 h with ⟨rfl, hy⟩ | ⟨before, rfl, rfl⟩
    · cases hy
      exact .inl hp
    · exact .inr ⟨before, y, after, rfl, hp⟩
  · rintro (hp | ⟨before, y, after, rfl, hp⟩)
    · exact ⟨[], x, l, rfl, hp⟩
    · exact ⟨x :: before, y, after, rfl, hp⟩

namespace Dispatcher

def move (d : Dispatcher σ ν) : Move σ ν → Act σ (Event ν) (Dispatcher σ ν)
  | .register cfg p => do return (← d.register cfg p).2
  | .registerFor plugin request => do return (← d.registerFor plugin request).2
  | .start cfg args => do
    let _ ← d.start cfg args
    return d
  | .reset cfg => do
    let _ ← d.reset cfg
    return d
  | .exit cfg => do
    let _ ← d.exit cfg
    return d
  | .teardown => d.teardown
  | .stop cfg => do
    let _ ← d.exit cfg
    d.teardown
  | .enter cfg tx phase => do
    let _ ← d.enter cfg tx phase
    return d
  | .commit cfg tx => do
    let _ ← d.commit cfg tx
    return d
  | .validate cfg tx => do
    let _ ← d.validate cfg tx
    return d

def play (d : Dispatcher σ ν) : List (Move σ ν) → Act σ (Event ν) (Dispatcher σ ν)
  | [] => pure d
  | m :: moves => do (← d.move m).play moves

theorem play_append (d : Dispatcher σ ν) (moves more : List (Move σ ν)) :
    d.play (moves ++ more) = d.play moves >>= fun d => d.play more := by
  induction moves generalizing d with
  | nil => rfl
  | cons m moves ih =>
    funext s
    simp only [List.cons_append, play, ih, Act.run_bind, List.append_assoc]

theorem play_singleton (d : Dispatcher σ ν) (m : Move σ ν) : d.play [m] = d.move m := by
  funext s
  simp only [play, Act.run_bind, Act.run_pure, List.append_nil]

theorem play_stop (d : Dispatcher σ ν) (cfg : Config) :
    d.play [.stop cfg] = d.play [.exit cfg, .teardown] := by
  funext s
  simp only [play, move, Act.run_bind, Act.run_pure, List.append_nil]

end Dispatcher

/-! ## Acts that play moves -/

/-- Run from a state, the act gives a value and does what the moves do. -/
structure Plays (m : Act σ (Event ν) α) (s : σ) (a : α) (d : Dispatcher σ ν)
    (moves : List (Move σ ν)) (d' : Dispatcher σ ν) : Prop where
  value : (m s).value = a
  state : (m s).state = (d.play moves s).state
  calls : calls (m s).trace = calls (d.play moves s).trace
  leads : (d.play moves s).value = d'

namespace Plays

variable {m : Act σ (Event ν) α} {f : α → Act σ (Event ν) β} {s : σ} {a : α} {b : β}
  {d d' d'' : Dispatcher σ ν} {moves more : List (Move σ ν)}

/-- What makes no calls is no move. -/
theorem quiet (h : Performs m s a ([] : List (Step σ ν Unit))) : Plays m s a d [] d :=
  ⟨h.value, h.state, h.calls, rfl⟩

theorem pure (a : α) (s : σ) : Plays (Pure.pure a : Act σ (Event ν) α) s a d [] d :=
  quiet (Performs.pure a s)

theorem log (level : Log.Level) (text : String) (s : σ) :
    Plays (Act.log level text : Act σ (Event ν) Unit) s () d [] d :=
  quiet (Performs.log level text s)

theorem bind (hm : Plays m s a d moves d') (hf : Plays (f a) (m s).state b d' more d'') :
    Plays (m >>= f) s b d (moves ++ more) d'' := by
  obtain ⟨rfl, hs, hc, rfl⟩ := hm
  obtain ⟨hv', hs', hc', hl'⟩ := hf
  rw [hs] at hv' hs' hc' hl'
  refine ⟨?_, ?_, ?_, ?_⟩
  · rw [Act.run_bind, hs]
    exact hv'
  · rw [Act.run_bind, Dispatcher.play_append, hs]
    exact hs'
  · rw [Act.run_bind, Dispatcher.play_append, Act.run_bind, hs, calls_append, calls_append, hc,
      hc']
  · rw [Dispatcher.play_append]
    exact hl'

/-- What comes first and makes no move. -/
theorem quiet_bind (hm : Plays m s a d [] d) (hf : Plays (f a) s b d more d'') :
    Plays (m >>= f) s b d more d'' :=
  hm.bind (hm.state ▸ hf)

/-- What comes last and makes no move. -/
theorem bind_quiet (hm : Plays m s a d moves d') (hf : Plays (f a) (m s).state b d' [] d') :
    Plays (m >>= f) s b d moves d' := by
  have h := hm.bind hf
  rwa [List.append_nil] at h

/-- Moves may be put for others that come to the same. -/
theorem replace (h : Plays m s a d moves d') (he : d.play more = d.play moves) :
    Plays m s a d more d' := by
  obtain ⟨hv, hs, hc, hl⟩ := h
  rw [← he] at hs hc hl
  exact ⟨hv, hs, hc, hl⟩

/-- A move and its result. -/
theorem of_move {x : Move σ ν} (hs : (m s).state = (d.move x s).state)
    (hc : PluginHost.calls (m s).trace = PluginHost.calls (d.move x s).trace) :
    Plays m s (m s).value d [x] (d.move x s).value := by
  refine ⟨rfl, ?_, ?_, ?_⟩ <;> rw [Dispatcher.play_singleton]
  · exact hs
  · exact hc

/-- A move that leaves the dispatcher as it is. -/
theorem of_keeping {x : Move σ ν} (h : d.move x = m >>= fun _ => Pure.pure d) (s : σ) :
    Plays m s (m s).value d [x] d := by
  refine ⟨rfl, ?_, ?_, ?_⟩ <;> rw [Dispatcher.play_singleton, h]
  · rfl
  · rw [Act.run_bind, Act.run_pure, List.append_nil]
  · rfl

end Plays

/-! ## Registering many plugins -/

/-- A plugin is what is loaded from a file, in some state. -/
def Loader.Loads (disk : Disk σ ν) (path : Path) (p : Plugin σ ν) : Prop :=
  ∃ s lib, disk.load s path = .ok lib ∧
    p = Plugin.ofLibrary ((pluginName? path).getD path.display) path lib

theorem Loader.performs_load (disk : Disk σ ν) (path : Path) (s : σ) :
    ∃ r, Performs (Loader.load disk path) s r ([] : List (Step σ ν Unit)) ∧
      ∀ p, r = .ok p → Loads disk path p := by
  let name := (pluginName? path).getD path.display
  unfold Loader.load
  cases hl : disk.load s path with
  | error cause =>
    refine ⟨.error (.load name path cause), (Performs.get s).quiet_bind ?_, ?_⟩
    · rw [hl]
      exact Performs.pure _ _
    · intro p hp
      cases hp
  | ok lib =>
    refine ⟨.ok (Plugin.ofLibrary name path lib), (Performs.get s).quiet_bind ?_, ?_⟩
    · rw [hl]
      exact (Performs.log _ _ _).quiet_bind (Performs.pure _ _)
    · intro p hp
      cases hp
      exact ⟨s, lib, hl, rfl⟩

namespace Dispatcher

variable (cfg : Config)

theorem plays_register (d : Dispatcher σ ν) (p : Plugin σ ν) (s : σ) :
    ∃ r d', Plays (d.register cfg p) s (r, d') d [.register cfg p] d' := by
  refine ⟨_, _, Plays.of_move rfl ?_⟩
  simp only [move, Act.run_bind, Act.run_pure, List.append_nil]

/-- Plugins are registered in order, up to the first failure. -/
theorem plays_registerAll (d : Dispatcher σ ν) (ps : List (Plugin σ ν)) (s : σ) :
    ∃ r d' n, Plays (d.registerAll cfg ps) s (r, d') d ((ps.take n).map (.register cfg)) d' := by
  induction ps generalizing d s with
  | nil => exact ⟨_, _, 0, Plays.pure _ _⟩
  | cons p ps ih =>
    obtain ⟨r, d₁, h⟩ := plays_register cfg d p s
    unfold registerAll
    cases r with
    | error e => exact ⟨_, _, 1, h.bind_quiet (Plays.pure _ _)⟩
    | ok u =>
      obtain ⟨r, d', n, hn⟩ := ih d₁ (d.register cfg p s).state
      exact ⟨r, d', n + 1, h.bind hn⟩

/-- Plugins are loaded and registered in order, up to the first failure. -/
theorem plays_loadEach (d : Dispatcher σ ν) (disk : Disk σ ν) (paths : List Path) (s : σ) :
    ∃ r d' n loaded, List.Forall₂ (Loader.Loads disk) (paths.take n) loaded ∧
      Plays (d.loadEach disk cfg paths) s (r, d') d (loaded.map (.register cfg)) d' := by
  induction paths generalizing d s with
  | nil => exact ⟨_, _, 0, [], .nil, Plays.pure _ _⟩
  | cons path paths ih =>
    obtain ⟨r, hl, hp⟩ := Loader.performs_load disk path s
    unfold loadEach
    cases r with
    | error e =>
      exact ⟨_, _, 0, [], .nil,
        (Plays.quiet hl).quiet_bind ((Plays.log _ _ _).quiet_bind (Plays.pure _ _))⟩
    | ok p =>
      obtain ⟨r, d₁, h⟩ := plays_register cfg d p s
      cases r with
      | error e =>
        exact ⟨_, _, 1, [p], .cons (hp p rfl) .nil,
          (Plays.quiet hl).quiet_bind (h.bind_quiet (Plays.pure _ _))⟩
      | ok u =>
        obtain ⟨r, d', n, loaded, hloads, hn⟩ := ih d₁ (d.register cfg p s).state
        exact ⟨r, d', n + 1, p :: loaded, .cons (hp p rfl) hloads,
          (Plays.quiet hl).quiet_bind (h.bind hn)⟩

theorem plays_loadAll (d : Dispatcher σ ν) (disk : Disk σ ν) (paths : List Path) (s : σ) :
    ∃ r d' n loaded, List.Forall₂ (Loader.Loads disk) (paths.take n) loaded ∧
      Plays (d.loadAll disk cfg paths) s (r, d') d (loaded.map (.register cfg)) d' := by
  obtain ⟨r, d', n, loaded, hloads, h⟩ := plays_loadEach cfg d disk paths s
  unfold loadAll
  cases r with
  | error e => exact ⟨_, _, n, loaded, hloads, h.bind_quiet (Plays.pure _ _)⟩
  | ok u =>
    exact ⟨_, _, n, loaded, hloads,
      h.bind_quiet ((Plays.log _ _ _).quiet_bind (Plays.pure _ _))⟩

end Dispatcher

end PluginHost
