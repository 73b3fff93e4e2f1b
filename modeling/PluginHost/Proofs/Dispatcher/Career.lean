import PluginHost.Proofs.Dispatcher.Life

/-!
# The career of a plugin

A plugin whose name is taken is refused, and it is as if it had no hooks.  Any other is called first
by its init hook; then, until an end, by others but neither by its init hook again nor by its exit
hook; and when all stops, last by its exit hook, if it has one and its init hook did not fail.
Nothing of it is left then.

    registered, moves that do not end → it stays, without such calls              (Sound.stays_play)
    registered under a fresh name, moves that do not end → Lives                       (Sound.lives)
    all its calls at a stop: that of its exit hook, or none                     (Sound.callsTo_stop)
    all together                                                                      (Sound.career)
-/

namespace PluginHost.Dispatcher

variable {σ ν : Type} {d : Dispatcher σ ν} {cfg : Config} {p : Plugin σ ν} {m : Move σ ν} {s : σ}

/-! ## Whom a dispatcher knows and calls -/

/-- What a move does to the registry. -/
theorem Sound.registry_move (h : d.Sound) (m : Move σ ν) (s : σ) :
    (d.move m s).value.registry =
      match m with
      | .register _ q => if q.name ∈ d.registry.names then d.registry else d.registry.push q
      | .teardown => .empty
      | .stop _ => .empty
      | _ => d.registry := by
  cases m with
  | register cfg q =>
    show (d.register cfg q s).value.2.registry = if _ then _ else _
    split
    · next hq => rw [register_taken h.registry hq]; rfl
    · next hq => exact (register_fresh h.registry hq s).registry
  | registerFor plugin r =>
    show (d.registerFor plugin r s).value.2.registry = d.registry
    rcases registerFor_cases d plugin r s with hd | ⟨q, -, hd⟩ <;> rw [hd]
  | start cfg args => rfl
  | reset cfg => rfl
  | exit cfg => rfl
  | teardown => rfl
  | stop cfg => rfl
  | enter cfg tx ph => rfl
  | commit cfg tx => rfl
  | validate cfg tx => rfl

/-- Plugins stay until all are forgotten. -/
theorem Sound.mem_plugins_move (h : d.Sound) (hp : p ∈ d.registry.plugins)
    (hm : m.forgets = false) (s : σ) : p ∈ (d.move m s).value.registry.plugins := by
  rw [h.registry_move]
  split
  · split
    · exact hp
    · exact List.mem_append_left _ hp
  · cases hm
  · cases hm
  · exact hp

/-- Names are new only by registration. -/
theorem Sound.mem_names_move (h : d.Sound) {name : String}
    (hn : name ∈ (d.move m s).value.registry.names) :
    name ∈ d.registry.names ∨ ∃ cfg q, m = .register cfg q ∧ q.name = name := by
  rw [h.registry_move] at hn
  split at hn
  · next cfg q =>
    split at hn
    · exact .inl hn
    · rw [Registry.names_push, List.mem_append, List.mem_singleton] at hn
      exact hn.imp_right fun hn => ⟨cfg, q, rfl, hn.symm⟩
  · cases hn
  · cases hn
  · exact .inl hn

theorem Sound.calls_register (h : d.Sound) (cfg : Config) (q : Plugin σ ν) (s : σ) :
    calls (d.move (.register cfg q) s).trace
      = if q.name ∈ d.registry.names then [] else initCalls q := by
  simp only [Dispatcher.move, Act.run_bind, Act.run_pure, List.append_nil]
  by_cases hq : q.name ∈ d.registry.names
  · rw [if_pos hq, register_taken h.registry hq]
    rfl
  · rw [if_neg hq, (register_fresh h.registry hq s).calls]

theorem plugin_of_mem_initCalls {q : Plugin σ ν} {c : Call} (hc : c ∈ initCalls q) :
    c.plugin = q.name := by
  unfold initCalls at hc
  split at hc
  · rw [List.mem_singleton.1 hc]
    rfl
  · cases hc

/-- The calls of the exit hooks, but those of plugins whose init hook failed. -/
def exitCalls (d : Dispatcher σ ν) : List Call :=
  (d.registry.plugins.filter fun q => q.has .exit && q.name ∉ d.failedInit).map fun q =>
    .exit q.name

theorem calls_exit (d : Dispatcher σ ν) (cfg : Config) (s : σ) :
    calls (d.exit cfg s).trace = d.exitCalls := by
  obtain ⟨n, hn⟩ := d.performs_exit cfg s
  rw [hn.calls, exitSteps, exitCalls, Registry.withHook]
  induction d.registry.plugins with
  | nil => rfl
  | cons q qs ih =>
    by_cases hx : q.has .exit = true
    · by_cases hf : q.name ∈ d.failedInit
      · simpa [hx, hf] using ih
      · simpa [hx, hf, exitStep, lifeStep] using ih
    · simpa [hx] using ih

theorem calls_teardown (d : Dispatcher σ ν) (s : σ) : calls (d.teardown s).trace = [] := rfl

theorem plugin_of_mem_exitCalls {c : Call} (hc : c ∈ d.exitCalls) : c.plugin ∈ d.registry.names := by
  obtain ⟨q, hq, rfl⟩ := List.mem_map.1 hc
  exact Registry.mem_names (List.mem_filter.1 hq).1

/-- What an end calls. -/
theorem plugin_of_mem_calls_end (hm : m.ends = true) {c : Call}
    (hc : c ∈ calls (d.move m s).trace) : c.plugin ∈ d.registry.names := by
  cases m with
  | exit cfg =>
    simp only [move, Act.run_bind, Act.run_pure, List.append_nil, calls_exit] at hc
    exact plugin_of_mem_exitCalls hc
  | teardown => cases hc
  | stop cfg =>
    simp only [move, Act.run_bind, calls_append, calls_exit, calls_teardown,
      List.append_nil] at hc
    exact plugin_of_mem_exitCalls hc
  | register cfg q => cases hm
  | registerFor plugin r => cases hm
  | start cfg args => cases hm
  | reset cfg => cases hm
  | enter cfg tx ph => cases hm
  | commit cfg tx => cases hm
  | validate cfg tx => cases hm

/-- What a move calls: registered plugins, or the plugin that it registers. -/
theorem Sound.plugin_of_mem_calls_move (h : d.Sound) {c : Call}
    (hc : c ∈ calls (d.move m s).trace) :
    c.plugin ∈ d.registry.names ∨ ∃ cfg q, m = .register cfg q ∧ q.name = c.plugin := by
  by_cases hr : ∃ cfg q, m = .register cfg q
  · obtain ⟨cfg, q, rfl⟩ := hr
    rw [h.calls_register] at hc
    split at hc
    · cases hc
    · exact .inr ⟨cfg, q, rfl, (plugin_of_mem_initCalls hc).symm⟩
  · left
    by_cases he : m.ends = true
    · exact plugin_of_mem_calls_end he hc
    · exact (h.serves_move (Bool.eq_false_iff.2 he) (fun cfg q hm => hr ⟨cfg, q, hm⟩) s c hc).plugin

/-- Along moves, only plugins are called that were registered before or that the moves register. -/
theorem Sound.plugin_of_mem_calls_play (h : d.Sound) {moves : List (Move σ ν)} {c : Call}
    (hc : c ∈ calls (d.play moves s).trace) :
    c.plugin ∈ d.registry.names ∨ ∃ cfg q, .register cfg q ∈ moves ∧ q.name = c.plugin := by
  induction moves generalizing d s with
  | nil => cases hc
  | cons m moves ih =>
    rw [Dispatcher.play, Act.run_bind, calls_append, List.mem_append] at hc
    -- a plugin that is known after the move was known before, or the move registers it
    have hfirst : (∃ cfg q, m = .register cfg q ∧ q.name = c.plugin) →
        ∃ cfg q, .register cfg q ∈ m :: moves ∧ q.name = c.plugin := by
      rintro ⟨cfg, q, rfl, hq⟩
      exact ⟨cfg, q, List.mem_cons_self, hq⟩
    rcases hc with hc | hc
    · exact (h.plugin_of_mem_calls_move hc).imp_right hfirst
    · rcases ih (h.move m s) hc with hn | ⟨cfg, q, hq, hn⟩
      · exact (h.mem_names_move hn).imp_right hfirst
      · exact .inr ⟨cfg, q, List.mem_cons_of_mem _ hq, hn⟩

/-! ## The calls of one plugin -/

def callsTo (name : String) (trace : List (Event ν)) : List Call :=
  (calls trace).filter fun c => c.plugin = name

theorem callsTo_append (name : String) (p q : List (Event ν)) :
    callsTo name (p ++ q) = callsTo name p ++ callsTo name q := by
  rw [callsTo, calls_append, List.filter_append]
  rfl

/-- The call of the exit hook, if the plugin has one and is not kept as failed. -/
theorem Sound.callsTo_stop (h : d.Sound) (hp : p ∈ d.registry.plugins) (cfg : Config) (s : σ) :
    callsTo p.name (d.move (.stop cfg) s).trace
      = if p.has .exit = true ∧ p.name ∉ d.failedInit then [.exit p.name] else [] := by
  simp only [Dispatcher.move, Act.run_bind, callsTo, calls_append, calls_exit, calls_teardown,
    List.append_nil]
  have hname : ((fun c : Call => decide (c.plugin = p.name)) ∘ fun q : Plugin σ ν => .exit q.name)
      = fun q => decide (q.name = p.name) := rfl
  rw [exitCalls, List.filter_map, hname, List.filter_comm, h.registry.filter_name hp]
  by_cases hx : p.has .exit = true ∧ p.name ∉ d.failedInit
  · rw [if_pos hx, List.filter_cons_of_pos (by simpa using hx)]
    rfl
  · rw [if_neg hx, List.filter_cons_of_neg (by simpa using hx)]
    rfl

/-! ## While it lives -/

/-- Calls of a plugin, neither of its init hook nor of its exit hook. -/
def Midlife (name : String) (cs : List Call) : Prop := ∀ c ∈ cs, c ≠ .init name ∧ c ≠ .exit name

/-- A registered plugin stays registered, failed or not as it was, and is called neither by its init
hook nor by its exit hook. -/
structure Stays (d : Dispatcher σ ν) (p : Plugin σ ν) (r : Ran σ (Event ν) (Dispatcher σ ν)) :
    Prop where
  registered : p ∈ r.value.registry.plugins
  failed : p.name ∈ r.value.failedInit ↔ p.name ∈ d.failedInit
  calls : Midlife p.name (callsTo p.name r.trace)

theorem Sound.midlife_move (h : d.Sound) (hp : p ∈ d.registry.plugins) (hm : m.ends = false)
    (s : σ) : Midlife p.name (callsTo p.name (d.move m s).trace) := by
  intro c hc
  obtain ⟨hc, hname⟩ := List.mem_filter.1 hc
  by_cases hr : ∃ cfg q, m = .register cfg q
  · -- the one name that a registration calls is not taken
    obtain ⟨cfg, q, rfl⟩ := hr
    rw [h.calls_register] at hc
    split at hc
    · cases hc
    · next hq =>
      rw [plugin_of_mem_initCalls hc, decide_eq_true_eq] at hname
      exact absurd (hname ▸ Registry.mem_names hp) hq
  · have hs := h.serves_move hm (fun cfg q he => hr ⟨cfg, q, he⟩) s c hc
    exact ⟨hs.notInit _, hs.notExit _⟩

theorem forgets_of_ends (h : m.ends = false) : m.forgets = false := by
  cases m <;> first | rfl | cases h

theorem Sound.stays_move (h : d.Sound) (hp : p ∈ d.registry.plugins) (hm : m.ends = false)
    (s : σ) : d.Stays p (d.move m s) where
  registered := h.mem_plugins_move hp (forgets_of_ends hm) s
  failed := by
    rw [mem_failedInit_move h, forgets_of_ends hm]
    -- no plugin of its name can be registered
    have hn : ¬ d.FailsToInit m s p.name := by
      rintro ⟨cfg, q, -, -, hq, -⟩
      exact hq (Registry.mem_names hp)
    simp [hn]
  calls := h.midlife_move hp hm s

theorem Sound.stays_play (h : d.Sound) (hp : p ∈ d.registry.plugins) {moves : List (Move σ ν)}
    (hm : ∀ m ∈ moves, m.ends = false) (s : σ) : d.Stays p (d.play moves s) := by
  induction moves generalizing d s with
  | nil => exact ⟨hp, .rfl, fun c hc => by cases hc⟩
  | cons m moves ih =>
    obtain ⟨hm, hms⟩ := List.forall_mem_cons.1 hm
    have hfirst := h.stays_move hp hm s
    have hrest := ih (h.move m s) hfirst.registered hms (d.move m s).state
    refine ⟨hrest.registered, hrest.failed.trans hfirst.failed, ?_⟩
    rw [Dispatcher.play, Act.run_bind, callsTo_append]
    intro c hc
    exact (List.mem_append.1 hc).elim (hfirst.calls c) (hrest.calls c)

/-! ## From its registration on -/

/-- What becomes of a plugin that is registered where a run has come to, with what is done then. -/
structure Career (before : Ran σ (Event ν) (Dispatcher σ ν)) (cfg : Config) (p : Plugin σ ν)
    (future : List (Move σ ν)) : Prop where
  /-- If its name is taken, it is refused, nothing happens, and the run is the same whatever hooks
  it has. -/
  refused : p.name ∈ before.value.registry.names →
    let r := before.value.register cfg p before.state
    r.value = (.error (.duplicate p.name), before.value) ∧ r.state = before.state ∧
      calls r.trace = [] ∧
      ∀ q, q.name = p.name → before.value.play (.register cfg q :: future) before.state
        = before.value.play (.register cfg p :: future) before.state
  /-- Otherwise it stays registered until an end; its init hook is called once, before all else, and
  its exit hook is not called. -/
  alive : p.name ∉ before.value.registry.names →
    ∀ life rest, future = life ++ rest → (∀ m ∈ life, m.ends = false) →
      let r := before.value.play (.register cfg p :: life) before.state
      r.value.registry.get? p.name = some p ∧
      ∃ others, callsTo p.name r.trace = initCalls p ++ others ∧ Midlife p.name others
  /-- At the first stop its exit hook is the last that is called, if it has one and its init hook did
  not fail.  Nothing is left then, and later calls are those of plugins registered later. -/
  stopped : p.name ∉ before.value.registry.names →
    ∀ life cfg' later, future = life ++ .stop cfg' :: later → (∀ m ∈ life, m.ends = false) →
      let r := before.value.play (.register cfg p :: life ++ [.stop cfg']) before.state
      (∃ others, Midlife p.name others ∧ callsTo p.name r.trace = initCalls p ++ others ++
        if p.has .exit = true ∧ ¬ before.value.InitFails cfg p before.state then [.exit p.name]
        else []) ∧
      r.value.registry.plugins = [] ∧ r.value.table.entries = [] ∧
      ∀ c ∈ calls (r.value.play later r.state).trace,
        ∃ cfg q, .register cfg q ∈ later ∧ q.name = c.plugin

/-- What a plugin that is registered and not yet ended has come to. -/
structure Lives (d : Dispatcher σ ν) (cfg : Config) (p : Plugin σ ν) (s : σ)
    (r : Ran σ (Event ν) (Dispatcher σ ν)) : Prop where
  sound : r.value.Sound
  registered : p ∈ r.value.registry.plugins
  failed : p.name ∈ r.value.failedInit ↔ d.InitFails cfg p s
  calls : ∃ others, Midlife p.name others ∧ callsTo p.name r.trace = initCalls p ++ others

theorem callsTo_initCalls (p : Plugin σ ν) :
    (initCalls p).filter (fun c => c.plugin = p.name) = initCalls p :=
  List.filter_eq_self.2 fun _ hc => decide_eq_true (plugin_of_mem_initCalls hc)

theorem Sound.lives (h : d.Sound) (hp : p.name ∉ d.registry.names) {life : List (Move σ ν)}
    (hlife : ∀ m ∈ life, m.ends = false) (cfg : Config) (s : σ) :
    d.Lives cfg p s (d.play (.register cfg p :: life) s) := by
  have hr : Registers d cfg p s _ _ := register_fresh h.registry hp s
  have hmem : p ∈ (d.move (.register cfg p) s).value.registry.plugins := by
    show p ∈ (d.register cfg p s).value.2.registry.plugins
    rw [hr.registry]
    exact List.mem_append_right _ List.mem_cons_self
  have hfailed : p.name ∈ (d.move (.register cfg p) s).value.failedInit ↔ d.InitFails cfg p s := by
    have hold : p.name ∉ d.failedInit := fun hf => hp (h.failed _ hf)
    show p.name ∈ (d.register cfg p s).value.2.failedInit ↔ _
    rw [hr.failed]
    simp [hold]
  have hstays := (h.move (.register cfg p) s).stays_play hmem hlife
    (d.move (.register cfg p) s).state
  refine ⟨h.play _ s, hstays.registered, hstays.failed.trans hfailed, _, hstays.calls, ?_⟩
  rw [Dispatcher.play, Act.run_bind, callsTo_append]
  congr 1
  rw [callsTo, h.calls_register, if_neg hp, callsTo_initCalls]

theorem Sound.career {before : Ran σ (Event ν) (Dispatcher σ ν)} (h : before.value.Sound)
    (cfg : Config) (p : Plugin σ ν) (future : List (Move σ ν)) : Career before cfg p future where
  refused := by
    intro hp
    refine ⟨?_, ?_, ?_, fun q hq => ?_⟩
    · rw [register_taken h.registry hp]
      rfl
    · rw [register_taken h.registry hp]
      rfl
    · rw [register_taken h.registry hp]
      rfl
    · have hact : before.value.register cfg q = before.value.register cfg p := by
        rw [register_taken h.registry (hq ▸ hp), register_taken h.registry hp, hq]
      simp only [Dispatcher.play, Dispatcher.move, hact]
  alive := by
    intro hp life rest _ hlife
    have hl := h.lives hp hlife cfg before.state
    obtain ⟨others, hm, hc⟩ := hl.calls
    exact ⟨(hl.sound.registry.get?_eq_some_iff _ _).2 ⟨hl.registered, rfl⟩, others, hc, hm⟩
  stopped := by
    intro hp life cfg' later _ hlife
    have hl := h.lives hp hlife cfg before.state
    obtain ⟨others, hm, hc⟩ := hl.calls
    simp only [play_append, play_singleton, Act.run_bind]
    refine ⟨⟨others, hm, ?_⟩, rfl, rfl, fun c hcall => ?_⟩
    · rw [callsTo_append, hc, hl.sound.callsTo_stop hl.registered]
      simp only [hl.failed]
    · refine ((sound_forgotten _).plugin_of_mem_calls_play hcall).resolve_left ?_
      exact List.not_mem_nil

end PluginHost.Dispatcher
