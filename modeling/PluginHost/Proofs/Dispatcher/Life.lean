import PluginHost.Proofs.Dispatcher.Commit
import PluginHost.Proofs.Dispatcher.Soundness

/-!
# The hooks of a plugin's life

Start and reset make the calls of their plans up to the first failure; exit makes all, leaving out
the plugins whose init hook failed.

A dispatcher `Serves` a call if it may be made while plugins live: it is for a registered plugin and
neither of its init hook nor of its exit hook.

    moves that neither register nor end make such calls only                (Sound.serves_move)
-/

namespace PluginHost.Dispatcher

variable {σ ν : Type}

/-! ## Plans -/

def lifeStep (p : Plugin σ ν) (k : HookKind) (call : Call) (hook : Option (Act σ (Note ν) Outcome)) :
    Step σ ν PluginError where
  call := call
  body := hook.getD (pure .done)
  blame := .hook p.name k

def startStep (cfg : Config) (args : List String) (p : Plugin σ ν) : Step σ ν PluginError :=
  lifeStep p .start (.start p.name args) (p.start.map fun hook => hook cfg args)

def resetStep (cfg : Config) (p : Plugin σ ν) : Step σ ν PluginError :=
  lifeStep p .reset (.reset p.name) (p.reset.map fun hook => hook cfg ())

def exitStep (cfg : Config) (p : Plugin σ ν) : Step σ ν PluginError :=
  lifeStep p .exit (.exit p.name) (p.exit.map fun hook => hook cfg ())

variable (d : Dispatcher σ ν) (cfg : Config)

/-- The calls of all exit hooks, but those of plugins whose init hook failed. -/
def exitSteps : List (Step σ ν PluginError) :=
  (d.registry.withHook .exit).flatMap fun p =>
    if p.name ∈ d.failedInit then [] else [exitStep cfg p]

theorem performs_fatal (p : Plugin σ ν) (k : HookKind) (r : Except HookError Unit) (s : σ) :
    Performs (fatal p k r : Act σ (Event ν) _) s (r.mapError (.hook p.name k))
      ([] : List (Step σ ν PluginError)) := by
  unfold fatal
  cases r with
  | error cause => exact (Performs.log _ _ s).quiet_bind (Performs.pure _ _)
  | ok u => exact Performs.pure _ _

theorem performs_start (args : List String) (s : σ) :
    let plan := (d.registry.withHook .start).map (startStep cfg args)
    Performs (d.start cfg args) s (Step.verdict () (Step.error? plan s)) (Step.made plan s) := by
  refine Performs.untilFailure (fun p hp s => ?_) s
  obtain ⟨hook, hh⟩ := Option.isSome_iff_exists.1 (List.mem_filter.1 hp).2
  simp only [startStep, lifeStep, Step.result, hh]
  exact (Performs.perform _ _ _ s).bind_quiet (performs_fatal p .start _ _)

theorem performs_reset (s : σ) :
    let plan := (d.registry.withHook .reset).map (resetStep cfg)
    Performs (d.reset cfg) s (Step.verdict () (Step.error? plan s)) (Step.made plan s) := by
  refine Performs.untilFailure (fun p hp s => ?_) s
  obtain ⟨hook, hh⟩ := Option.isSome_iff_exists.1 (List.mem_filter.1 hp).2
  simp only [resetStep, lifeStep, Step.result, hh]
  exact (Performs.perform _ _ _ s).bind_quiet (performs_fatal p .reset _ _)

theorem performs_exit (s : σ) : ∃ n, Performs (d.exit cfg) s n (d.exitSteps cfg) := by
  refine Performs.countFailures (fun p hp s => ?_) s
  obtain ⟨hook, hh⟩ := Option.isSome_iff_exists.1 (List.mem_filter.1 hp).2
  unfold exitPlugin
  simp only [hh]
  by_cases hf : p.name ∈ d.failedInit
  · rw [if_pos hf, if_pos hf]
    exact ⟨_, (Performs.log _ _ s).quiet_bind (Performs.pure _ _)⟩
  · rw [if_neg hf, if_neg hf]
    have hp : Performs (Act.perform (.exit p.name) (hook cfg ())) s
        ((exitStep cfg p).result s) [exitStep cfg p] := by
      simp only [exitStep, lifeStep, Step.result, hh]
      exact Performs.perform _ _ _ s
    cases hr : (exitStep cfg p).result s with
    | error cause =>
      rw [hr] at hp
      exact ⟨_, hp.bind_quiet ((Performs.log _ _ _).quiet_bind (Performs.pure _ _))⟩
    | ok u =>
      rw [hr] at hp
      exact ⟨_, hp.bind_quiet (Performs.pure _ _)⟩

/-! ## Calls while plugins live -/

/-- A call of a registered plugin, but neither of its init hook nor of its exit hook. -/
structure Serves (c : Call) : Prop where
  plugin : c.plugin ∈ d.registry.names
  notInit : ∀ name, c ≠ .init name
  notExit : ∀ name, c ≠ .exit name

variable {d cfg} {s : σ}

theorem serves_phaseSteps (tx : Transaction) (ph : Phase) :
    ∀ st ∈ d.phaseSteps cfg tx ph, d.Serves st.call := by
  intro st hst
  obtain ⟨p, hp, rfl⟩ := List.mem_map.1 hst
  exact ⟨Registry.mem_names (List.mem_filter.1 hp).1, by intro; nofun, by intro; nofun⟩

theorem Sound.serves_callbackStep (h : d.Sound) {dep : Dependency (Callback σ ν)}
    (hd : dep ∈ d.table.entries) (op : Op) (view : ChangeView) :
    d.Serves (callbackStep cfg dep op view).call :=
  ⟨h.owners dep hd, by intro; nofun, by intro; nofun⟩

theorem Sound.serves_checks (h : d.Sound) (tx : Transaction) :
    ∀ st ∈ d.checks cfg tx, d.Serves st.call := by
  intro st hst
  rcases List.mem_append.1 hst with hst | hst
  · exact serves_phaseSteps _ _ st hst
  rcases List.mem_append.1 hst with hst | hst
  · obtain ⟨i, hi, rfl⟩ := List.mem_map.1 hst
    exact h.serves_callbackStep (Table.mem_commitVector hi).1 _ _
  · exact serves_phaseSteps _ _ st hst

theorem Sound.serves_commits (h : d.Sound) (tx : Transaction) :
    ∀ st ∈ d.commits cfg tx, d.Serves st.call := by
  intro st hst
  obtain ⟨i, hi, rfl⟩ := List.mem_map.1 hst
  exact h.serves_callbackStep (mem_order hi).1 _ _

theorem serves_cleanup (tx : Transaction) : ∀ st ∈ d.cleanup cfg tx, d.Serves st.call := by
  unfold cleanup
  split
  · exact serves_phaseSteps _ _
  · intro st hst
    cases hst

theorem Sound.serves_commit (h : d.Sound) (tx : Transaction) :
    ∀ c ∈ calls (d.commit cfg tx s).trace, d.Serves c := by
  by_cases hi : tx.state = .idle
  case neg => exact (d.performs_commit_of_not_idle cfg hi).forall_calls (serves_cleanup tx)
  cases hc : Step.firstFailure? (d.checks cfg tx) s with
  | some f =>
    refine (d.performs_commit_of_checks_failure cfg hi hc).forall_calls fun st hst => ?_
    rcases List.mem_append.1 hst with hst | hst
    · exact h.serves_checks tx st (Step.mem_of_mem_made hst)
    · exact serves_phaseSteps _ _ st hst
  | none =>
    cases hf : Step.firstFailure? (d.commits cfg (tx.within .completed))
        (Step.stateAfter (d.checks cfg tx) s) with
    | some f =>
      refine (d.performs_commit_of_commits_failure cfg hi hc hf).forall_calls fun st hst => ?_
      rcases List.mem_append.1 hst with hst | hst
      · exact h.serves_checks tx st hst
      rcases List.mem_append.1 hst with hst | hst
      · exact h.serves_commits _ st (Step.mem_of_mem_made hst)
      rcases List.mem_append.1 hst with hst | hst
      · obtain ⟨i, hi, rfl⟩ := List.mem_map.1 hst
        have hm := List.mem_of_mem_take (List.mem_reverse.1 hi)
        exact h.serves_callbackStep (mem_order hm).1 _ _
      · exact serves_phaseSteps _ _ st hst
    | none =>
      refine (d.performs_commit_of_none cfg hi hc hf).forall_calls fun st hst => ?_
      rcases List.mem_append.1 hst with hst | hst
      · exact h.serves_checks tx st hst
      rcases List.mem_append.1 hst with hst | hst
      · exact h.serves_commits _ st hst
      · exact serves_phaseSteps _ _ st (Step.mem_of_mem_made hst)

theorem Sound.serves_validate (h : d.Sound) (tx : Transaction) :
    ∀ c ∈ calls (d.validate cfg tx s).trace, d.Serves c := by
  by_cases hi : tx.state = .idle
  case neg => exact (d.performs_validate_of_not_idle cfg hi).forall_calls (serves_cleanup tx)
  cases hc : Step.firstFailure? (d.checks cfg tx) s with
  | some f =>
    refine (d.performs_validate_of_failure cfg hi hc).forall_calls fun st hst => ?_
    rcases List.mem_append.1 hst with hst | hst
    · exact h.serves_checks tx st (Step.mem_of_mem_made hst)
    · exact serves_phaseSteps _ _ st hst
  | none => exact (d.performs_validate_of_none cfg hi hc).forall_calls (h.serves_checks tx)

theorem serves_enter (tx : Transaction) (ph : Phase) :
    ∀ c ∈ calls (d.enter cfg tx ph s).trace, d.Serves c := by
  by_cases ha : tx.state ∈ ph.allowed
  · obtain ⟨good, result, plan, he⟩ := enters_of_allowed d cfg ha s
    obtain ⟨seen, hplan⟩ := he.calls
    exact he.performs.forall_calls fun st hst => serves_phaseSteps _ _ st (hplan.subset hst)
  · rw [enter_refused ha]
    intro c hc
    cases hc

theorem serves_start (args : List String) : ∀ c ∈ calls (d.start cfg args s).trace, d.Serves c := by
  refine (d.performs_start cfg args s).forall_calls fun st hst => ?_
  obtain ⟨p, hp, rfl⟩ := List.mem_map.1 (Step.mem_of_mem_made hst)
  exact ⟨Registry.mem_names (List.mem_filter.1 hp).1, by intro; nofun, by intro; nofun⟩

theorem serves_reset : ∀ c ∈ calls (d.reset cfg s).trace, d.Serves c := by
  refine (d.performs_reset cfg s).forall_calls fun st hst => ?_
  obtain ⟨p, hp, rfl⟩ := List.mem_map.1 (Step.mem_of_mem_made hst)
  exact ⟨Registry.mem_names (List.mem_filter.1 hp).1, by intro; nofun, by intro; nofun⟩

theorem calls_registerFor (d : Dispatcher σ ν) (plugin : String) (r : Request (Callback σ ν))
    (s : σ) : calls (d.registerFor plugin r s).trace = [] := by
  unfold registerFor
  cases d.registry.get? plugin with
  | none => rfl
  | some p =>
    cases hi : d.table.insert p.name r with
    | error e =>
      simp only [hi]
      rfl
    | ok grown =>
      simp only [hi]
      rfl

/-- Moves that neither register a plugin nor end its life only make calls that plugins serve. -/
theorem Sound.serves_move (h : d.Sound) {m : Move σ ν} (he : m.ends = false)
    (hr : ∀ cfg p, m ≠ .register cfg p) (s : σ) :
    ∀ c ∈ calls (d.move m s).trace, d.Serves c := by
  cases m with
  | register cfg p => exact absurd rfl (hr cfg p)
  | exit cfg => cases he
  | teardown => cases he
  | stop cfg => cases he
  | registerFor plugin r =>
    simp only [Dispatcher.move, Act.run_bind, Act.run_pure, List.append_nil, calls_registerFor]
    intro c hc
    cases hc
  | start cfg args =>
    simp only [Dispatcher.move, Act.run_bind, Act.run_pure, List.append_nil]
    exact serves_start args
  | reset cfg =>
    simp only [Dispatcher.move, Act.run_bind, Act.run_pure, List.append_nil]
    exact serves_reset
  | enter cfg tx ph =>
    simp only [Dispatcher.move, Act.run_bind, Act.run_pure, List.append_nil]
    exact serves_enter tx ph
  | commit cfg tx =>
    simp only [Dispatcher.move, Act.run_bind, Act.run_pure, List.append_nil]
    exact h.serves_commit tx
  | validate cfg tx =>
    simp only [Dispatcher.move, Act.run_bind, Act.run_pure, List.append_nil]
    exact h.serves_validate tx

end PluginHost.Dispatcher
