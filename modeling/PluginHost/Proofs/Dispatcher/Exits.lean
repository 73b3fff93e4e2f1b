import PluginHost.Proofs.Dispatcher.Career

/-!
# Whose exit hooks are due

A plugin is admitted if it is registered under a name that is not taken and its init hook does not
fail.  As long as nothing ends, no exit hook is called, and those that are due are the exit hooks of
the admitted plugins, in the order in which they were registered, each once.

    moves that do not end make no calls of exit hooks                             (not_exit_play)
    moves that do not end add the exit hooks of the plugins they admit          (exitCalls_play)
    an act that plays such moves: both                                          (exits_of_plays)
-/

namespace PluginHost.Dispatcher

variable {σ ν : Type} {d d' : Dispatcher σ ν} {m : Move σ ν} {moves : List (Move σ ν)} {s : σ}

/-- The plugin that a move registers, if its name is not taken and its init hook does not fail. -/
def admits (d : Dispatcher σ ν) (m : Move σ ν) (s : σ) : List (Plugin σ ν) :=
  match m with
  | .register cfg p => if p.name ∉ d.registry.names ∧ ¬ d.InitFails cfg p s then [p] else []
  | _ => []

/-- The plugins that moves register under names that are not taken and whose init hooks do not fail,
in order. -/
def admitted (d : Dispatcher σ ν) : List (Move σ ν) → σ → List (Plugin σ ν)
  | [], _ => []
  | m :: moves, s => d.admits m s ++ (d.move m s).value.admitted moves (d.move m s).state

/-- The calls of the exit hooks of plugins that have one. -/
def farewells (plugins : List (Plugin σ ν)) : List Call :=
  (plugins.filter fun p => p.has .exit).map fun p => .exit p.name

theorem farewells_append (ps qs : List (Plugin σ ν)) :
    farewells (ps ++ qs) = farewells ps ++ farewells qs := by
  rw [farewells, List.filter_append, List.map_append]
  rfl

/-- Which exit hooks are due is told by the plugins and by which of their names are kept as failed. -/
theorem exitCalls_congr (hr : d'.registry = d.registry)
    (hf : ∀ name, name ∈ d'.failedInit ↔ name ∈ d.failedInit) : d'.exitCalls = d.exitCalls := by
  simp only [exitCalls, hr, hf]

/-- A plugin that is registered under a fresh name has its exit hook called after the others, unless
its init hook failed. -/
theorem Sound.exitCalls_register (h : d.Sound) {cfg : Config} {p : Plugin σ ν}
    {trace : List (Event ν)} (hp : p.name ∉ d.registry.names) (hr : Registers d cfg p s d' trace) :
    d'.exitCalls = d.exitCalls ++ farewells (d.admits (.register cfg p) s) := by
  -- the new name is none of the old ones, so it changes nothing for the plugins that have them
  have hold : ∀ q ∈ d.registry.plugins,
      (q.has .exit && decide (q.name ∉ d'.failedInit)) =
        (q.has .exit && decide (q.name ∉ d.failedInit)) := by
    intro q hq
    have hne : p.name ≠ q.name := fun he => hp (he ▸ Registry.mem_names hq)
    simp [hr.failed, hne]
  have hnew : p.name ∈ d'.failedInit ↔ d.InitFails cfg p s := by
    have hbefore : p.name ∉ d.failedInit := fun hn => hp (h.failed _ hn)
    simp [hr.failed, hbefore]
  have hplugins : d'.registry.plugins = d.registry.plugins ++ [p] := by
    rw [hr.registry]
    rfl
  rw [exitCalls, hplugins, List.filter_append, List.map_append, List.filter_congr hold]
  congr 1
  by_cases hf : d.InitFails cfg p s
  · simp [farewells, admits, hnew, hf]
  · simp [farewells, admits, hnew, hf, hp, List.filter_singleton]

/-- A move that forgets nothing adds the exit hook of the plugin that it admits. -/
theorem Sound.exitCalls_move (h : d.Sound) (hm : m.forgets = false) (s : σ) :
    (d.move m s).value.exitCalls = d.exitCalls ++ farewells (d.admits m s) := by
  by_cases hr : ∃ cfg p, m = .register cfg p
  · obtain ⟨cfg, p, rfl⟩ := hr
    by_cases hp : p.name ∈ d.registry.names
    · have hsame : (d.move (.register cfg p) s).value = d := by
        show (d.register cfg p s).value.2 = d
        rw [register_taken h.registry hp]
        rfl
      simp [hsame, admits, hp, farewells]
    · exact h.exitCalls_register hp (register_fresh h.registry hp s)
  · have hregister : ∀ cfg p, m ≠ .register cfg p := fun cfg p he => hr ⟨cfg, p, he⟩
    have hnone : d.admits m s = [] := by
      cases m <;> first | exact absurd rfl (hregister _ _) | rfl
    have hregistry : (d.move m s).value.registry = d.registry := by
      rw [h.registry_move]
      cases m <;> first | exact absurd rfl (hregister _ _) | rfl | cases hm
    have hfailed : ∀ name, name ∈ (d.move m s).value.failedInit ↔ name ∈ d.failedInit := by
      intro name
      rw [mem_failedInit_move h]
      simp [hm, not_failsToInit hregister]
    rw [exitCalls_congr hregistry hfailed, hnone]
    exact (List.append_nil _).symm

/-- Moves that forget nothing add the exit hooks of the plugins that they admit, in order. -/
theorem Sound.exitCalls_play (h : d.Sound) (hm : ∀ m ∈ moves, m.forgets = false) (s : σ) :
    (d.play moves s).value.exitCalls = d.exitCalls ++ farewells (d.admitted moves s) := by
  induction moves generalizing d s with
  | nil => exact (List.append_nil _).symm
  | cons m moves ih =>
    obtain ⟨hm, hms⟩ := List.forall_mem_cons.1 hm
    have hrest := ih (h.move m s) hms (d.move m s).state
    rw [h.exitCalls_move hm, List.append_assoc, ← farewells_append] at hrest
    exact hrest

/-- No exit hook is due twice. -/
theorem Sound.nodup_exitCalls (h : d.Sound) : d.exitCalls.Nodup := by
  have hnames : ((d.registry.plugins.filter fun q => q.has .exit && q.name ∉ d.failedInit).map
      Plugin.name).Nodup := h.registry.names.sublist (List.filter_sublist.map _)
  have hmap := hnames.map (f := Call.exit) fun a b he => by cases he; rfl
  rwa [List.map_map] at hmap

/-- Moves that do not end make no calls of exit hooks. -/
theorem Sound.not_exit_play (h : d.Sound) (hm : ∀ m ∈ moves, m.ends = false) (s : σ) :
    ∀ c ∈ calls (d.play moves s).trace, ∀ name, c ≠ .exit name := by
  induction moves generalizing d s with
  | nil =>
    intro c hc
    cases hc
  | cons m moves ih =>
    obtain ⟨hm, hms⟩ := List.forall_mem_cons.1 hm
    intro c hc name
    rw [Dispatcher.play, Act.run_bind, calls_append, List.mem_append] at hc
    rcases hc with hc | hc
    · by_cases hr : ∃ cfg p, m = .register cfg p
      · obtain ⟨cfg, p, rfl⟩ := hr
        rw [h.calls_register] at hc
        rintro rfl
        simp [initCalls] at hc
      · exact (h.serves_move hm (fun cfg p he => hr ⟨cfg, p, he⟩) s c hc).notExit name
    · exact ih (h.move m s) hms _ c hc name

/-- What is called when all stops. -/
theorem calls_stop (d : Dispatcher σ ν) (cfg : Config) (s : σ) :
    calls (d.move (.stop cfg) s).trace = d.exitCalls := by
  simp only [move, Act.run_bind, calls_append, calls_exit, calls_teardown, List.append_nil]

/-- What an act that does not end leaves to be called: the exit hooks of the plugins it admits. -/
theorem exits_of_plays {α : Type} {act : Act σ (Event ν) α} {a : α} (h : Plays act s a empty moves d')
    (hm : ∀ m ∈ moves, m.ends = false) :
    d'.exitCalls = farewells (empty.admitted moves s) ∧
      (∀ c ∈ calls (act s).trace, ∀ name, c ≠ .exit name) ∧
      (farewells ((empty : Dispatcher σ ν).admitted moves s)).Nodup := by
  have hsound := sound_empty (σ := σ) (ν := ν)
  have hdue : d'.exitCalls = farewells (empty.admitted moves s) := by
    rw [← h.leads]
    exact hsound.exitCalls_play (fun m hmem => forgets_of_ends (hm m hmem)) s
  have honce : d'.exitCalls.Nodup := by
    rw [← h.leads]
    exact (hsound.play moves s).nodup_exitCalls
  refine ⟨hdue, fun c hc => ?_, hdue ▸ honce⟩
  rw [h.calls] at hc
  exact hsound.not_exit_play hm s c hc

end PluginHost.Dispatcher
