import PluginHost.Dispatcher.Phase
import PluginHost.Proofs.Plan

/-!
# Phases as plans

Each phase of a transaction makes the calls of its plan, the hooks of the phase in order of
registration, and moves the transaction on.  Begin, complete and finish make them up to the first
veto, abort makes all.
-/

namespace PluginHost.Dispatcher

variable {σ ν : Type}

def phaseStep (cfg : Config) (tx : Transaction) (ph : Phase) (p : Plugin σ ν) :
    Step σ ν TransactionError where
  call := .phase p.name ph tx
  body :=
    match p.phase ph with
    | none => pure .done
    | some hook => hook cfg tx
  blame := .phaseVeto ph p.name

def phaseSteps (d : Dispatcher σ ν) (cfg : Config) (tx : Transaction) (ph : Phase) :
    List (Step σ ν TransactionError) :=
  (d.registry.withHook (.phase ph)).map (phaseStep cfg tx ph)

variable (d : Dispatcher σ ν) (cfg : Config) (tx : Transaction)

/-- A failing hook of a phase is a veto of that phase. -/
theorem blame_phaseSteps {ph : Phase} {st : Step σ ν TransactionError}
    (h : st ∈ d.phaseSteps cfg tx ph) (cause : HookError) :
    ∃ plugin, st.blame cause = .phaseVeto ph plugin cause := by
  obtain ⟨p, -, rfl⟩ := List.mem_map.1 h
  exact ⟨p.name, rfl⟩

theorem mem_withHook {d : Dispatcher σ ν} {ph : Phase} {p : Plugin σ ν}
    (h : p ∈ d.registry.withHook (.phase ph)) :
    p ∈ d.registry.plugins ∧ ∃ hook, p.phase ph = some hook := by
  obtain ⟨hm, hp⟩ := List.mem_filter.1 h
  exact ⟨hm, Option.isSome_iff_exists.1 hp⟩

theorem performs_callPhase (ph : Phase) {p : Plugin σ ν} {hook : Hook σ ν Transaction Outcome}
    (h : p.phase ph = some hook) (s : σ) :
    Performs (callPhase cfg tx ph p) s ((phaseStep cfg tx ph p).result s)
      [phaseStep cfg tx ph p] := by
  simp only [callPhase, phaseStep, Step.result, h]
  exact Performs.perform _ _ _ _

theorem performs_askPhase (ph : Phase) {p : Plugin σ ν} {hook : Hook σ ν Transaction Outcome}
    (h : p.phase ph = some hook) (s : σ) :
    Performs (askPhase cfg tx ph p) s
      (((phaseStep cfg tx ph p).result s).mapError (phaseStep cfg tx ph p).blame)
      [phaseStep cfg tx ph p] := by
  have hc := performs_callPhase cfg tx ph h s
  unfold askPhase
  cases hr : (phaseStep cfg tx ph p).result s with
  | error e =>
    rw [hr] at hc
    exact hc.bind_quiet ((Performs.log _ _ _).bind_quiet (Performs.pure _ _))
  | ok u =>
    rw [hr] at hc
    exact hc.bind_quiet (Performs.pure _ _)

theorem performs_runPhase (ph : Phase) (s : σ) :
    Performs (d.runPhase cfg tx ph) s (Step.verdict () (Step.error? (d.phaseSteps cfg tx ph) s))
      (Step.made (d.phaseSteps cfg tx ph) s) := by
  refine Performs.untilFailure (fun p hp s => ?_) s
  obtain ⟨-, hook, hh⟩ := mem_withHook hp
  exact performs_askPhase cfg tx ph hh s

/-! ## The phases at their time -/

/-- A value and the transaction as it goes on, or an error and the transaction as it is left. -/
def ending {α : Type} (a : α) (good bad : Transaction) :
    Option TransactionError → Except TransactionError α × Transaction
  | none => (.ok a, good)
  | some e => (.error e, bad)

theorem performs_begin (h : tx.state = .idle) (s : σ) :
    let plan := d.phaseSteps cfg (tx.within .begun) .begin
    Performs (d.begin cfg tx) s
      (ending () (tx.within .begun) (tx.within .vetoed) (Step.error? plan s))
      (Step.made plan s) := by
  unfold begin
  rw [if_pos (by rw [h]; decide)]
  refine (d.performs_runPhase cfg (tx.within .begun) .begin s).settle fun o s => ?_
  cases o <;> exact Performs.pure _ _

theorem performs_complete (h : tx.state ∈ Phase.complete.allowed) (s : σ) :
    let plan := d.phaseSteps cfg tx .complete
    Performs (d.complete cfg tx) s
      (ending () (tx.within .completed) (tx.within .vetoed) (Step.error? plan s))
      (Step.made plan s) := by
  unfold complete
  rw [if_pos h]
  refine (d.performs_runPhase cfg tx .complete s).settle fun o s => ?_
  cases o <;> exact Performs.pure _ _

theorem performs_finish (h : tx.state = .completed) (s : σ) :
    let plan := d.phaseSteps cfg tx .finish
    Performs (d.finish cfg tx) s (ending () (tx.within .ended) tx (Step.error? plan s))
      (Step.made plan s) := by
  unfold finish
  rw [if_pos (by rw [h]; decide)]
  refine (d.performs_runPhase cfg tx .finish s).settle fun o s => ?_
  cases o <;> exact Performs.pure _ _

theorem performs_abort (h : tx.state ∈ Phase.abort.allowed) (s : σ) :
    ∃ n, Performs (d.abort cfg tx) s (.ok n, tx.within .aborted)
      (d.phaseSteps cfg tx .abort) := by
  have hall : ∀ p ∈ d.registry.withHook (.phase .abort), ∀ s, ∃ r,
      Performs (abortPlugin cfg tx p) s r [phaseStep cfg tx .abort p] := by
    intro p hp s
    obtain ⟨-, hook, hh⟩ := mem_withHook hp
    have hc := performs_callPhase cfg tx .abort hh s
    unfold abortPlugin
    cases hr : (phaseStep cfg tx .abort p).result s with
    | error e =>
      rw [hr] at hc
      exact ⟨_, hc.bind_quiet ((Performs.log _ _ _).bind_quiet (Performs.pure _ _))⟩
    | ok u =>
      rw [hr] at hc
      exact ⟨_, hc.bind_quiet (Performs.pure _ _)⟩
  obtain ⟨n, hn⟩ := Performs.countFailures hall s
  rw [← List.map_eq_flatMap] at hn
  refine ⟨n, ?_⟩
  unfold abort
  rw [if_pos h]
  exact hn.bind_quiet (Performs.pure _ _)

end PluginHost.Dispatcher
