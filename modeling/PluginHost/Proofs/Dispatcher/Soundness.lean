import PluginHost.Proofs.Dependency.Visits
import PluginHost.Proofs.Dispatcher.Move

/-!
# Soundness of the dispatcher

Whatever is asked of a new dispatcher, its registry and its table stay sound, all dependencies belong
to registered plugins, and the names kept as failed are those of the registered plugins whose init
hook failed.  So no position that is looked up is out of range.

    d.Sound → (d.move m s).value.Sound                                                 (Sound.move)
    name ∈ failedInit after moves from a sound dispatcher ↔
      it was before, and nothing was forgotten, or its init hook failed since
                                                                          (mem_failedInit_play)
    after any commands to a new dispatcher: sound, and in range              (sound_after_commands)
-/

namespace PluginHost.Dispatcher

variable {σ ν : Type} {d : Dispatcher σ ν} {s : σ}

/-- Registry and table are sound and speak of the same plugins. -/
structure Sound (d : Dispatcher σ ν) : Prop where
  registry : d.registry.Sound
  table : d.table.Sound
  owners : ∀ e ∈ d.table.entries, e.plugin ∈ d.registry.names
  failed : ∀ name ∈ d.failedInit, name ∈ d.registry.names

theorem sound_empty : (empty : Dispatcher σ ν).Sound where
  registry := Registry.sound_empty
  table := Table.sound_empty
  owners := by intro e he; cases he
  failed := by intro name hn; cases hn

/-- The dispatcher that has forgotten everything but which ids are used. -/
def forgotten (d : Dispatcher σ ν) : Dispatcher σ ν := ⟨.empty, d.table.clear, []⟩

theorem sound_forgotten (d : Dispatcher σ ν) : d.forgotten.Sound where
  registry := Registry.sound_empty
  table := Table.Sound.clear
  owners := by intro e he; cases he
  failed := by intro name hn; cases hn

/-! ## What a move does -/

theorem Registers.sound {cfg : Config} {p : Plugin σ ν} {d' : Dispatcher σ ν}
    {trace : List (Event ν)} (h : d.Sound) (hp : p.name ∉ d.registry.names)
    (hr : Registers d cfg p s d' trace) : d'.Sound := by
  obtain ⟨requests, ht⟩ := hr.table
  refine ⟨?_, ?_, ?_, ?_⟩
  · rw [hr.registry]
    exact h.registry.push hp
  · rw [ht]
    exact h.table.registering _ _
  · intro e he
    rw [hr.registry, Registry.names_push, List.mem_append, List.mem_singleton]
    rw [ht] at he
    exact (Table.mem_registering he).imp_left (h.owners e)
  · intro name hn
    rw [hr.registry, Registry.names_push, List.mem_append, List.mem_singleton]
    exact ((hr.failed name).1 hn).imp (h.failed name) fun hn => hn.1.symm

/-- A dependency is registered in the name of a registered plugin, or not at all. -/
theorem registerFor_cases (d : Dispatcher σ ν) (plugin : String) (r : Request (Callback σ ν))
    (s : σ) :
    (d.registerFor plugin r s).value.2 = d ∨ ∃ p ∈ d.registry.plugins,
      (d.registerFor plugin r s).value.2
        = ⟨d.registry, d.table.registering p.name [r], d.failedInit⟩ := by
  unfold registerFor
  cases hg : d.registry.get? plugin with
  | none => exact .inl rfl
  | some p =>
    simp only [Table.registering, List.foldl_cons, List.foldl_nil, Table.apply]
    cases hi : d.table.insert p.name r with
    | error e => exact .inl rfl
    | ok grown =>
      refine .inr ⟨p, Registry.mem_of_get? hg, ?_⟩
      simp only [hi]
      rfl

theorem Sound.registerFor (h : d.Sound) (plugin : String) (r : Request (Callback σ ν)) (s : σ) :
    (d.registerFor plugin r s).value.2.Sound := by
  rcases registerFor_cases d plugin r s with hd | ⟨p, hp, hd⟩
  · rw [hd]
    exact h
  · rw [hd]
    refine ⟨h.registry, h.table.registering _ _, fun e he => ?_, h.failed⟩
    rcases Table.mem_registering he with he | he
    · exact h.owners e he
    · exact he ▸ Registry.mem_names hp

theorem Sound.register (h : d.Sound) (cfg : Config) (p : Plugin σ ν) (s : σ) :
    (d.register cfg p s).value.2.Sound := by
  by_cases hp : p.name ∈ d.registry.names
  · rw [register_taken h.registry hp]
    exact h
  · exact (register_fresh h.registry hp s).sound h hp

/-- Every move keeps the dispatcher sound. -/
theorem Sound.move (h : d.Sound) (m : Move σ ν) (s : σ) : (d.move m s).value.Sound := by
  cases m with
  | register cfg p => exact h.register cfg p s
  | registerFor plugin r => exact h.registerFor plugin r s
  | start cfg args => exact h
  | reset cfg => exact h
  | exit cfg => exact h
  | teardown => exact sound_forgotten d
  | stop cfg => exact sound_forgotten d
  | enter cfg tx ph => exact h
  | commit cfg tx => exact h
  | validate cfg tx => exact h

theorem Sound.play (h : d.Sound) (moves : List (Move σ ν)) (s : σ) :
    (d.play moves s).value.Sound := by
  induction moves generalizing d s with
  | nil => exact h
  | cons m moves ih => exact ih (h.move m s) _

/-! ## Whose init hook failed -/

/-- A move registers a plugin of a name that is not taken, and its init hook fails. -/
def FailsToInit (d : Dispatcher σ ν) (m : Move σ ν) (s : σ) (name : String) : Prop :=
  ∃ cfg p, m = .register cfg p ∧ p.name = name ∧ name ∉ d.registry.names ∧ d.InitFails cfg p s

theorem not_failsToInit {m : Move σ ν} {name : String} (h : ∀ cfg p, m ≠ .register cfg p) :
    ¬ d.FailsToInit m s name := by
  rintro ⟨cfg, p, hm, -⟩
  exact h cfg p hm

theorem failsToInit_register {cfg : Config} {p : Plugin σ ν} {name : String} :
    d.FailsToInit (.register cfg p) s name ↔
      p.name = name ∧ p.name ∉ d.registry.names ∧ d.InitFails cfg p s := by
  constructor
  · rintro ⟨cfg', p', hm, rfl, hp, hf⟩
    cases hm
    exact ⟨rfl, hp, hf⟩
  · rintro ⟨rfl, hp, hf⟩
    exact ⟨cfg, p, rfl, rfl, hp, hf⟩

/-- A name is kept as failed until all is forgotten, and added when an init hook fails. -/
theorem mem_failedInit_move (h : d.Sound) (m : Move σ ν) (s : σ) (name : String) :
    name ∈ (d.move m s).value.failedInit ↔
      m.forgets = false ∧ name ∈ d.failedInit ∨ d.FailsToInit m s name := by
  cases m with
  | register cfg p =>
    rw [failsToInit_register]
    show name ∈ (d.register cfg p s).value.2.failedInit ↔ _
    by_cases hp : p.name ∈ d.registry.names
    · rw [register_taken h.registry hp]
      simp [hp, Move.forgets]
    · rw [(register_fresh h.registry hp s).failed]
      simp [hp, Move.forgets]
  | registerFor plugin r =>
    have hd : (d.registerFor plugin r s).value.2.failedInit = d.failedInit := by
      rcases registerFor_cases d plugin r s with hd | ⟨p, -, hd⟩ <;> rw [hd]
    simp [move, hd, Move.forgets, not_failsToInit]
  | teardown => simp [move, teardown, Move.forgets, not_failsToInit]
  | stop cfg => simp [move, teardown, Move.forgets, not_failsToInit]
  | start cfg args => simp [move, Move.forgets, not_failsToInit]
  | reset cfg => simp [move, Move.forgets, not_failsToInit]
  | exit cfg => simp [move, Move.forgets, not_failsToInit]
  | enter cfg tx ph => simp [move, Move.forgets, not_failsToInit]
  | commit cfg tx => simp [move, Move.forgets, not_failsToInit]
  | validate cfg tx => simp [move, Move.forgets, not_failsToInit]

/-- Since all plugins were last forgotten, a plugin of a name was registered, and its init hook
failed. -/
def FailedSince (d : Dispatcher σ ν) (moves : List (Move σ ν)) (s : σ) (name : String) : Prop :=
  ∃ past m future, moves = past ++ m :: future ∧ (∀ later ∈ future, later.forgets = false) ∧
    (d.play past s).value.FailsToInit m (d.play past s).state name

theorem failedSince_cons (m : Move σ ν) (moves : List (Move σ ν)) (s : σ) (name : String) :
    d.FailedSince (m :: moves) s name ↔
      (∀ later ∈ moves, later.forgets = false) ∧ d.FailsToInit m s name ∨
        (d.move m s).value.FailedSince moves (d.move m s).state name :=
  exists_split_cons m moves

/-- The names kept as failed are those that were so before, unless all was forgotten, and those whose
init hook failed since. -/
theorem mem_failedInit_play (h : d.Sound) (moves : List (Move σ ν)) (s : σ) (name : String) :
    name ∈ (d.play moves s).value.failedInit ↔
      (∀ m ∈ moves, m.forgets = false) ∧ name ∈ d.failedInit ∨ d.FailedSince moves s name := by
  induction moves generalizing d s with
  | nil => simp [play, FailedSince]
  | cons m moves ih =>
    have hrest := ih (h.move m s) (d.move m s).state
    rw [mem_failedInit_move h] at hrest
    rw [failedSince_cons, List.forall_mem_cons]
    refine hrest.trans ?_
    tauto

/-! ## Commands -/

/-- What a dispatcher is told to do: a move, or the registration of many plugins. -/
inductive Command (σ ν : Type) where
  | move (m : Move σ ν)
  | registerAll (cfg : Config) (ps : List (Plugin σ ν))
  | loadAll (disk : Disk σ ν) (cfg : Config) (paths : List Path)

def command (d : Dispatcher σ ν) : Command σ ν → Act σ (Event ν) (Dispatcher σ ν)
  | .move m => d.move m
  | .registerAll cfg ps => do return (← d.registerAll cfg ps).2
  | .loadAll disk cfg paths => do return (← d.loadAll disk cfg paths).2

def obey (d : Dispatcher σ ν) : List (Command σ ν) → Act σ (Event ν) (Dispatcher σ ν)
  | [] => pure d
  | c :: commands => do (← d.command c).obey commands

def Command.Spells : Command σ ν → List (Move σ ν) → Prop
  | .move m, moves => moves = [m]
  | .registerAll cfg ps, moves => ∃ n, moves = (ps.take n).map (.register cfg)
  | .loadAll disk cfg paths, moves => ∃ n loaded,
    List.Forall₂ (Loader.Loads disk) (paths.take n) loaded ∧ moves = loaded.map (.register cfg)

theorem plays_command (d : Dispatcher σ ν) (c : Command σ ν) (s : σ) :
    ∃ d' moves, c.Spells moves ∧ Plays (d.command c) s d' d moves d' := by
  cases c with
  | move m => exact ⟨_, [m], rfl, Plays.of_move rfl rfl⟩
  | registerAll cfg ps =>
    obtain ⟨r, d', n, h⟩ := plays_registerAll cfg d ps s
    exact ⟨d', _, ⟨n, rfl⟩, h.bind_quiet (Plays.pure _ _)⟩
  | loadAll disk cfg paths =>
    obtain ⟨r, d', n, loaded, hl, h⟩ := plays_loadAll cfg d disk paths s
    exact ⟨d', _, ⟨n, loaded, hl, rfl⟩, h.bind_quiet (Plays.pure _ _)⟩

theorem plays_obey (d : Dispatcher σ ν) (commands : List (Command σ ν)) (s : σ) :
    ∃ d' moves, List.Forall₂ Command.Spells commands moves ∧
      Plays (d.obey commands) s d' d moves.flatten d' := by
  induction commands generalizing d s with
  | nil => exact ⟨d, [], .nil, Plays.pure _ _⟩
  | cons c commands ih =>
    obtain ⟨d₁, first, hc, h⟩ := plays_command d c s
    obtain ⟨d', moves, hcs, hs⟩ := ih d₁ (d.command c s).state
    exact ⟨d', first :: moves, .cons hc hcs, h.bind hs⟩

/-! ## What is looked up is there -/

/-- No position that is looked up is out of range: of a plugin, of an entry, or, after any number of
visits along the pass over the changes, of a call; and every call has a first change.  The commit
vector is what all the visits of this pass come to. -/
structure InRange (d : Dispatcher σ ν) : Prop where
  plugins : ∀ name pos, d.registry.position? name = some pos → pos < d.registry.plugins.length
  entries : ∀ key, ∀ e ∈ d.table.index.positions key, e < d.table.entries.length
  calls : ∀ validate changes n, (d.table.draftAfter validate changes n).Addressed
  pass : ∀ validate changes, d.table.commitVector changes validate =
    (d.table.draftAfter validate changes (d.table.visits changes.zipIdx).length).calls.mergeSort
      Invocation.precedes

theorem Sound.inRange (h : d.Sound) : d.InRange where
  plugins _ _ hp := h.registry.lt_of_position? hp
  entries _ _ he := h.table.lt_of_mem_positions he
  calls validate changes n := d.table.addressed_draftAfter validate changes n
  pass validate changes := d.table.commitVector_eq_draftAfter changes validate

/-! ## Top theorem -/

/-- After any commands to a new dispatcher it is sound, it keeps as failed just the names of the
plugins, registered since all was last forgotten, whose init hook failed, and nothing that it looks
up is out of range. -/
theorem sound_after_commands (commands : List (Command σ ν)) (s : σ) :
    ∃ d moves, List.Forall₂ Command.Spells commands moves ∧
      Plays (empty.obey commands) s d empty moves.flatten d ∧
      d.Sound ∧ (∀ name, name ∈ d.failedInit ↔ empty.FailedSince moves.flatten s name) ∧
      d.InRange := by
  obtain ⟨d, moves, hc, h⟩ := plays_obey empty commands s
  obtain rfl := h.leads
  have hs := sound_empty.play moves.flatten s
  refine ⟨_, moves, hc, h, hs, fun name => ?_, hs.inRange⟩
  rw [mem_failedInit_play sound_empty]
  simp [empty]

end PluginHost.Dispatcher
