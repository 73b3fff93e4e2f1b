import PluginHost.Proofs.Backend.SetUp
import PluginHost.Proofs.Dispatcher.Life
import PluginHost.Proofs.Loading

/-!
# Starting up

A backend that is run loads the plugins, resets them if so configured, and starts them.  Which reset
and start hooks there are is known only once all is loaded.  So a run calls the init hooks of the
plugins that come in, and then, if none halted, follows the plan of the plugins that it has by then.

    runPlan cfg args r    the calls that follow once the plugins of `r` are loaded

    a run makes the calls of loading, then of its plan up to the first failure     (runs_in_order)
-/

namespace PluginHost

variable {σ ν α β : Type}

/-! ## Acts that make calls -/

/-- Run from a state, the act gives a value, makes calls and leaves a state. -/
structure Makes (m : Act σ (Event ν) α) (s : σ) (a : α) (cs : List Call) (s' : σ) : Prop where
  value : (m s).value = a
  state : (m s).state = s'
  calls : calls (m s).trace = cs

namespace Makes

variable {m : Act σ (Event ν) α} {f : α → Act σ (Event ν) β} {s s' s'' : σ} {a : α} {b : β}
  {cs cs' : List Call}

theorem of_performs {η : Type} {plan : List (Step σ ν η)} (h : Performs m s a plan) :
    Makes m s a (plan.map Step.call) (Step.stateAfter plan s) :=
  ⟨h.value, h.state, h.calls⟩

theorem bind (hm : Makes m s a cs s') (hf : Makes (f a) s' b cs' s'') :
    Makes (m >>= f) s b (cs ++ cs') s'' := by
  obtain ⟨rfl, rfl, hc⟩ := hm
  refine ⟨hf.value, hf.state, ?_⟩
  rw [Act.run_bind, calls_append, hc, hf.calls]

/-- What comes first and makes no calls. -/
theorem quiet_bind (hm : Performs m s a ([] : List (Step σ ν Unit))) (hf : Makes (f a) s b cs s') :
    Makes (m >>= f) s b cs s' :=
  (of_performs hm).bind hf

/-- What comes last and makes no calls. -/
theorem bind_quiet (hm : Makes m s a cs s')
    (hf : Performs (f a) s' b ([] : List (Step σ ν Unit))) : Makes (m >>= f) s b cs s' := by
  have h := hm.bind (of_performs hf)
  rwa [List.map_nil, List.append_nil] at h

end Makes

namespace Backend

/-! ## Plans of the stages -/

/-- The calls of all reset hooks. -/
def resetPlan (cfg : Config) (r : Registry σ ν) : List (Step σ ν HostError) :=
  ((r.withHook .reset).map (Dispatcher.resetStep cfg)).map (Step.reblame (managerError .reset))

/-- The calls of all start hooks, with the arguments. -/
def startPlan (cfg : Config) (args : List String) (r : Registry σ ν) : List (Step σ ν HostError) :=
  ((r.withHook .start).map (Dispatcher.startStep cfg args)).map
    (Step.reblame (managerError .start))

/-- The calls of all reset hooks, if so configured. -/
def setUpPlan (cfg : Config) (r : Registry σ ν) : List (Step σ ν HostError) :=
  if cfg.resetOnStart then resetPlan cfg r else []

/-- The calls that follow once all is loaded. -/
def runPlan (cfg : Config) (args : List String) (r : Registry σ ν) : List (Step σ ν HostError) :=
  setUpPlan cfg r ++ startPlan cfg args r

variable {b : Backend σ ν} {disk : Disk σ ν} {s : σ}

theorem performs_reset (b : Backend σ ν) (s : σ) :
    let plan := resetPlan b.config b.manager.dispatcher.registry
    Performs b.reset s (Step.verdict () (Step.error? plan s)) (Step.made plan s) :=
  (Performs.log _ _ s).quiet_bind
    ((b.manager.dispatcher.performs_reset b.config s).mapError (managerError .reset))

/-- Starting a backend that is ready makes the calls of its plan, and the backend is started just if
none fails. -/
theorem performs_start (h : b.Ready) (args : List String) (s : σ) :
    let plan := startPlan b.config args b.manager.dispatcher.registry
    ∃ b', Performs (b.start args) s (Step.verdict () (Step.error? plan s), b') (Step.made plan s) ∧
      (b'.isStarted = true ↔ Step.error? plan s = none) := by
  intro plan
  let inner := (b.manager.dispatcher.registry.withHook .start).map
    (Dispatcher.startStep b.config args)
  let ready := b.within (b.manager.setStartArgs args)
  have hstart : Performs (ready.manager.start ready.config) s
      (Step.verdict () (Step.error? inner s)) (Step.made plan s) := by
    have h := (b.manager.dispatcher.performs_start b.config args s).reblame (managerError .start)
    rw [← Step.made_reblame] at h
    exact (Performs.log _ _ s).quiet_bind h
  have herror : Step.error? plan s = (Step.error? inner s).map (managerError .start) :=
    Step.error?_reblame (managerError .start) inner s
  have hnot : ¬ (!b.isSetUp || b.isStarted) = true := by simp [h.1, h.2]
  unfold start
  rw [if_neg hnot, herror]
  cases he : Step.error? inner s with
  | some e =>
    rw [he] at hstart
    refine ⟨ready, (Performs.log _ _ s).quiet_bind ((Performs.log _ _ s).quiet_bind
      (hstart.bind_quiet (Performs.pure _ _))), iff_of_false ?_ nofun⟩
    exact Bool.eq_false_iff.1 h.2
  | none =>
    rw [he] at hstart
    exact ⟨ready.flagged ready.isSetUp true, (Performs.log _ _ s).quiet_bind
      ((Performs.log _ _ s).quiet_bind (hstart.bind_quiet
        ((Performs.log _ _ _).quiet_bind (Performs.pure _ _)))), iff_of_true rfl rfl⟩

/-! ## Loading, and what follows -/

/-- A set-up that cannot load all calls nothing more. -/
theorem makes_setUp_of_fault (h : b.isSetUp = false) {e : PluginError} {ps : List (Plugin σ ν)}
    {d' : Dispatcher σ ν} (hb : Brings b.config (b.manager.setUp disk b.config) s
      (.error e, b.manager.within d') b.manager.dispatcher ps d') :
    Makes (b.setUp disk) s (.error (managerError .setUp e), b.within (b.manager.within d'))
      (ps.flatMap Dispatcher.initCalls) (b.manager.setUp disk b.config s).state := by
  have hload : Makes (b.manager.setUp disk b.config) s _ _ _ := ⟨hb.value, rfl, hb.calls⟩
  have hnot : ¬ b.isSetUp = true := Bool.eq_false_iff.1 h
  unfold setUp
  rw [if_neg hnot]
  exact .quiet_bind (Performs.log _ _ s) (.quiet_bind (Performs.log _ _ s)
    (hload.bind_quiet (Performs.pure _ _)))

theorem performs_setUpPlan (b : Backend σ ν) (s : σ) :
    let plan := setUpPlan b.config b.manager.dispatcher.registry
    Performs (if b.config.resetOnStart then b.reset else pure (.ok ())) s
      (Step.verdict () (Step.error? plan s)) (Step.made plan s) := by
  intro plan
  simp only [plan, setUpPlan]
  cases b.config.resetOnStart with
  | true => exact b.performs_reset s
  | false => exact Performs.pure _ _

/-- A set-up that loads all sets the backend up, and calls the reset hooks if so configured. -/
theorem makes_setUp_of_loaded (h : b.isSetUp = false) {ps : List (Plugin σ ν)}
    {d' : Dispatcher σ ν} {s₁ : σ} (hs : (b.manager.setUp disk b.config s).state = s₁)
    (hb : Brings b.config (b.manager.setUp disk b.config) s (.ok (), b.manager.within d')
      b.manager.dispatcher ps d') :
    let plan := setUpPlan b.config d'.registry
    Makes (b.setUp disk) s
      (Step.verdict () (Step.error? plan s₁),
        (b.within (b.manager.within d')).flagged true b.isStarted)
      (ps.flatMap Dispatcher.initCalls ++ (Step.made plan s₁).map Step.call)
      (Step.stateAfter (Step.made plan s₁) s₁) := by
  intro plan
  let up := (b.within (b.manager.within d')).flagged true b.isStarted
  have hload : Makes (b.manager.setUp disk b.config) s _ _ s₁ := ⟨hb.value, hs, hb.calls⟩
  have hnot : ¬ b.isSetUp = true := Bool.eq_false_iff.1 h
  unfold setUp
  rw [if_neg hnot]
  refine .quiet_bind (Performs.log _ _ s) (.quiet_bind (Performs.log _ _ s) (hload.bind ?_))
  have hreset := up.performs_setUpPlan s₁
  -- both branches go on alike, so that what follows is taken out of the choice
  show Makes (if up.config.resetOnStart = true then up.reset >>= _ else pure (Except.ok ()) >>= _)
    _ _ _ _
  rw [← apply_ite (fun r : Act σ (Event ν) _ => r >>= _)]
  refine .of_performs (hreset.settle (w := fun o => (Step.verdict () o, up)) fun o s => ?_)
  cases o with
  | some e => exact Performs.pure _ _
  | none => exact (Performs.log _ _ s).quiet_bind (Performs.pure _ _)

/-- Once all is loaded, a run makes the calls of its plan up to the first that fails, and the backend
is started just if none does. -/
theorem makes_run_of_loaded (hup : b.isSetUp = false) (hstart : b.isStarted = false)
    (args : List String) {ps : List (Plugin σ ν)} {d' : Dispatcher σ ν} {s₁ : σ}
    (hs : (b.manager.setUp disk b.config s).state = s₁)
    (hb : Brings b.config (b.manager.setUp disk b.config) s (.ok (), b.manager.within d')
      b.manager.dispatcher ps d') :
    let plan := runPlan b.config args d'.registry
    ∃ b' s', Makes (b.run disk args) s (Step.verdict () (Step.error? plan s₁), b')
      (ps.flatMap Dispatcher.initCalls ++ (Step.made plan s₁).map Step.call) s' ∧
      (b'.isStarted = true ↔ Step.error? plan s₁ = none) := by
  intro plan
  let up := (b.within (b.manager.within d')).flagged true b.isStarted
  let first := setUpPlan b.config d'.registry
  have hsetUp : Makes (b.setUp disk) s (Step.verdict () (Step.error? first s₁), up) _ _ :=
    makes_setUp_of_loaded hup hs hb
  have hplan : plan = first ++ startPlan b.config args d'.registry := rfl
  cases hf : Step.firstFailure? first s₁ with
  | some f =>
    rw [Step.error?_of_failure hf] at hsetUp
    rw [hplan, Step.error?_append_of_failure hf, Step.made_append_of_failure hf]
    exact ⟨up, _, hsetUp.bind_quiet (Performs.pure _ _),
      iff_of_false (Bool.eq_false_iff.1 hstart) nofun⟩
  | none =>
    rw [Step.error?_of_none hf, Step.made_of_none hf] at hsetUp
    obtain ⟨b', hrun, hstarted⟩ := performs_start (b := up) ⟨rfl, hstart⟩ args
      (Step.stateAfter first s₁)
    rw [hplan, Step.error?_append_of_none hf, Step.made_append_of_none hf, List.map_append,
      ← List.append_assoc]
    exact ⟨b', _, hsetUp.bind (.of_performs hrun), hstarted⟩

/-- A run of a backend that is neither set up nor started calls the init hooks of the plugins that
come in; then, if none halted, it calls the reset hooks of all plugins if so configured, and their
start hooks, up to the first that fails.  It comes back with the first error, of its stage, and the
backend is started just if there is none. -/
theorem runs_in_order (hup : b.isSetUp = false) (hstart : b.isStarted = false) (disk : Disk σ ν)
    (args : List String) (s : σ) :
    let x := b.manager.dispatcher.scene s
    let run := b.run disk args s
    ∃ met rest arrivals fault?,
      b.manager.loader.trail disk b.config b.manager.loader.dirs x = met ++ rest ∧
      (fault? = none → rest = []) ∧ x.Admits b.config met arrivals fault? ∧
      let loaded := x.after b.config arrivals
      let plan := if fault?.isSome then [] else runPlan b.config args loaded.registry
      let error? := (fault?.map (managerError .setUp)).or (Step.error? plan loaded.state)
      loaded.registry.plugins = b.manager.dispatcher.registry.plugins ++ arrivals ∧
      calls run.trace = arrivals.flatMap Dispatcher.initCalls
        ++ (Step.made plan loaded.state).map Step.call ∧
      run.value.1 = Step.verdict () error? ∧
      (run.value.2.isStarted = true ↔ error? = none) ∧
      (error? = none ↔ fault? = none ∧ Step.GoesWell plan loaded.state) := by
  intro x run
  obtain ⟨fault?, d', met, rest, arrivals, htrail, hrest, hb, ha, -⟩ :=
    b.manager.takes_setUp disk b.config s
  refine ⟨met, rest, arrivals, fault?, htrail, hrest, ha, ?_⟩
  intro loaded plan error?
  have hloaded : loaded = d'.scene (b.manager.setUp disk b.config s).state := hb.scene.symm
  refine ⟨Scene.plugins_after x b.config arrivals, ?_⟩
  cases fault? with
  | some e =>
    have hrun : Makes (b.run disk args) s (.error (managerError .setUp e), _) _ _ :=
      (makes_setUp_of_fault hup hb).bind_quiet (Performs.pure _ _)
    refine ⟨hrun.calls.trans (List.append_nil _).symm, congrArg Prod.fst hrun.value, ?_,
      iff_of_false nofun fun h => nomatch h.1⟩
    rw [hrun.value]
    exact iff_of_false (Bool.eq_false_iff.1 hstart) nofun
  | none =>
    obtain ⟨b', s', hrun, hstarted⟩ := makes_run_of_loaded hup hstart args rfl hb
    have hplan : plan = runPlan b.config args d'.registry := by
      simp only [plan, hloaded]
      rfl
    have hstate : loaded.state = (b.manager.setUp disk b.config s).state := by
      rw [hloaded]
      rfl
    have herror : error? = Step.error? plan loaded.state := Option.none_or
    rw [← hplan, ← hstate] at hrun hstarted
    rw [herror]
    refine ⟨hrun.calls, congrArg Prod.fst hrun.value, ?_, ?_⟩
    · rw [hrun.value]
      exact hstarted
    · rw [Step.error?, Option.map_eq_none_iff, Step.firstFailure?_eq_none_iff]
      exact (and_iff_right rfl).symm

/-! ## A greeter, and a plugin in a file -/

/-- A plugin with a reset hook and a start hook. -/
def greeter : Plugin Unit Unit :=
  ⟨"greeter", none, none, some fun _ _ => pure .done, none, some fun _ _ => pure .done,
    fun _ => none⟩

/-- A disk with one plugin, whose init hook goes well. -/
def tuned : Disk Unit Unit :=
  ⟨fun _ _ => .ok [⟨Utf8.ofString "head.so", .ok true⟩], fun _ _ => .ok (Manager.returning 0)⟩

/-- A backend with a greeter is run: the plugin in the file comes in, then the greeter is reset and
started. -/
theorem runs_in_order_greeter :
    let new := (eager.register greeter ()).value.2
    let run := new.run tuned ["-v"] ()
    new.isSetUp = false ∧ new.isStarted = false ∧ run.value.2.isStarted = true ∧
    (calls run.trace).map Call.plugin = ["head", "greeter", "greeter"] ∧
    ∃ arrivals : List (Plugin Unit Unit), calls run.trace = arrivals.flatMap Dispatcher.initCalls
      ++ (runPlan new.config ["-v"] ((new.manager.dispatcher.scene ()).after new.config
        arrivals).registry).map Step.call := by
  intro new run
  have hrun : run.value.2.isStarted = true := by decide +kernel
  obtain ⟨met, rest, arrivals, fault?, -, -, -, -, hcalls, -, hstarted, hnone⟩ :=
    runs_in_order (b := new) rfl rfl tuned ["-v"] ()
  obtain ⟨rfl, hwell⟩ := hnone.1 (hstarted.1 hrun)
  rw [Step.made_of_none ((Step.firstFailure?_eq_none_iff _ _).2 hwell)] at hcalls
  exact ⟨rfl, rfl, hrun, by decide +kernel, arrivals, hcalls⟩

end Backend

end PluginHost
