import PluginHost.Proofs.Dispatcher.Sequence

/-!
# All or nothing

A commit either does all that its change set asks for or leaves what the plugins hold as it was,
provided that their callbacks can be undone.

    Reversible d cfg held                                  what is asked of hooks and callbacks
    error, but no veto of finish → held unchanged
    ok, or a veto of finish → held as after all commits    (commit_all_or_nothing)

The calls that went well form a stack: each undoing call meets what its own call left behind, for
those above it have been undone before.
-/

namespace PluginHost.Dispatcher

variable {σ ν τ : Type}

/-- What callbacks and hooks must do for the state that plugins hold, a part of the whole state. -/
structure Reversible (d : Dispatcher σ ν) (cfg : Config) (held : σ → τ) : Prop where
  /-- A committing callback that fails changes nothing. -/
  failed : ∀ dep ∈ d.table.entries, dep.kind.validate = false →
    ∀ (op : Op) (view : ChangeView) (s : σ) (cause : HookError),
      (dep.callback cfg op view s).value.result = .error cause →
        held (dep.callback cfg op view s).state = held s
  /-- What a committing callback did, the inverse operation on the reversed view undoes. -/
  undone : ∀ dep ∈ d.table.entries, dep.kind.validate = false →
    ∀ (op : Op) (view : ChangeView) (s s' : σ),
      (dep.callback cfg op view s).value.result = .ok () →
        held s' = held (dep.callback cfg op view s).state →
          (dep.callback cfg op.invert view.reversed s').value.result = .ok () ∧
            held (dep.callback cfg op.invert view.reversed s').state = held s
  /-- Validating callbacks change nothing. -/
  validating : ∀ dep ∈ d.table.entries, dep.kind.validate = true →
    ∀ (op : Op) (view : ChangeView) (s : σ), held (dep.callback cfg op view s).state = held s
  /-- Nor do the hooks of a phase. -/
  hooks : ∀ p ∈ d.registry.plugins, ∀ (ph : Phase) (hook : Hook σ ν Transaction Outcome),
    p.phase ph = some hook → ∀ (tx : Transaction) (s : σ), held (hook cfg tx s).state = held s

namespace Reversible

variable {d : Dispatcher σ ν} {cfg : Config} {held : σ → τ} (hr : d.Reversible cfg held)
include hr

/-! ## Calls that change nothing -/

theorem held_phaseSteps (tx : Transaction) (ph : Phase) :
    ∀ st ∈ d.phaseSteps cfg tx ph, ∀ s, held (st.body s).state = held s := by
  intro st hst s
  obtain ⟨p, hp, rfl⟩ := List.mem_map.1 hst
  obtain ⟨hm, hook, hh⟩ := mem_withHook hp
  simp only [phaseStep, hh]
  exact hr.hooks p hm ph hook hh tx s

theorem held_checks (tx : Transaction) :
    ∀ st ∈ d.checks cfg tx, ∀ s, held (st.body s).state = held s := by
  intro st hst s
  rcases List.mem_append.1 hst with h | h
  · exact hr.held_phaseSteps _ _ st h s
  rcases List.mem_append.1 h with h | h
  · obtain ⟨i, hi, rfl⟩ := List.mem_map.1 h
    obtain ⟨hm, hk⟩ := Table.mem_commitVector hi
    exact hr.validating i.dependency hm hk i.op _ s
  · exact hr.held_phaseSteps _ _ st h s

/-! ## The stack of calls that went well -/

/-- Undoing calls that went well, the last one first, gives back what was held before them. -/
theorem held_unwound {tx : Transaction} {applied : List (Invocation (Callback σ ν))}
    (hm : ∀ i ∈ applied, i.dependency ∈ d.table.entries ∧ i.dependency.kind.validate = false)
    {s s' : σ} (hw : Step.GoesWell (applied.map (invokeStep cfg tx)) s)
    (hs : held s' = held (Step.stateAfter (applied.map (invokeStep cfg tx)) s)) :
    held (Step.stateAfter (applied.reverse.map (undoStep cfg tx)) s') = held s := by
  induction applied generalizing s with
  | nil => exact hs
  | cons i rest ih =>
    rw [List.map_cons, Step.goesWell_cons] at hw
    rw [List.map_cons, Step.stateAfter_cons] at hs
    obtain ⟨hd, hk⟩ := hm i List.mem_cons_self
    -- the calls above `i` leave what `i` left
    have hrest := ih (fun j hj => hm j (List.mem_cons_of_mem _ hj)) hw.2 hs
    rw [List.reverse_cons, List.map_append, Step.stateAfter_append]
    exact (hr.undone i.dependency hd hk i.op _ s _ hw.1 hrest).2

/-- A failing call and the undoing of those before it. -/
theorem held_commits_of_failure {tx : Transaction} {s : σ} {f : Step.Failure σ ν TransactionError}
    (hf : Step.firstFailure? (d.commits cfg tx) s = some f) :
    held (Step.stateAfter (((d.order tx).take f.position).reverse.map (undoStep cfg tx))
      (Step.stateAfter (Step.made (d.commits cfg tx) s) s)) = held s := by
  obtain ⟨hn, hw, hfail⟩ := (Step.firstFailure?_eq_some_iff _ s f).1 hf
  obtain ⟨i, hi, hstep⟩ : ∃ i, (d.order tx)[f.position]? = some i ∧ invokeStep cfg tx i = f.step := by
    rw [commits, List.getElem?_map, Option.map_eq_some_iff] at hn
    exact hn
  rw [commits, ← List.map_take] at hw hfail
  refine hr.held_unwound (fun j hj => mem_order (List.mem_of_mem_take hj)) hw ?_
  obtain ⟨hd, hk⟩ := mem_order (List.mem_of_getElem? hi)
  rw [Step.stateAfter_made_of_failure hf, commits, ← List.map_take]
  rw [← hstep] at hfail ⊢
  exact hr.failed i.dependency hd hk i.op _ _ _ hfail

/-! ## The three ways of a commit -/

variable {tx : Transaction} (h : tx.state = .idle) {s : σ}
include h

theorem held_of_checks_failure {f : Step.Failure σ ν TransactionError}
    (hf : Step.firstFailure? (d.checks cfg tx) s = some f) :
    held (d.commit cfg tx s).state = held s := by
  rw [(d.performs_commit_of_checks_failure cfg h hf).state]
  refine Step.stateAfter_of_unchanged (fun st hst => ?_) s
  rcases List.mem_append.1 hst with hst | hst
  · exact hr.held_checks tx st (Step.mem_of_mem_made hst)
  · exact hr.held_phaseSteps _ _ st hst

theorem held_of_commits_failure {f : Step.Failure σ ν TransactionError}
    (hc : Step.firstFailure? (d.checks cfg tx) s = none)
    (hf : Step.firstFailure? (d.commits cfg (tx.within .completed))
      (Step.stateAfter (d.checks cfg tx) s) = some f) :
    held (d.commit cfg tx s).state = held s := by
  rw [(d.performs_commit_of_commits_failure cfg h hc hf).state]
  simp only [Step.stateAfter_append]
  rw [Step.stateAfter_of_unchanged (hr.held_phaseSteps _ _)]
  exact (hr.held_commits_of_failure hf).trans (Step.stateAfter_of_unchanged (hr.held_checks tx) s)

theorem held_of_none (hc : Step.firstFailure? (d.checks cfg tx) s = none)
    (hf : Step.firstFailure? (d.commits cfg (tx.within .completed))
      (Step.stateAfter (d.checks cfg tx) s) = none) :
    held (d.commit cfg tx s).state = held (d.committed cfg tx s) := by
  rw [(d.performs_commit_of_none cfg h hc hf).state]
  simp only [Step.stateAfter_append]
  exact Step.stateAfter_of_unchanged
    (fun st hst => hr.held_phaseSteps _ _ st (Step.mem_of_mem_made hst)) _

end Reversible

/-! ## Vetoes of finish -/

variable {d : Dispatcher σ ν} {cfg : Config} {tx : Transaction} {st : Step σ ν TransactionError}

theorem blame_checks (h : st ∈ d.checks cfg tx) (cause : HookError) (plugin : String)
    (cause' : HookError) : st.blame cause ≠ .phaseVeto .finish plugin cause' := by
  rcases List.mem_append.1 h with h | h
  · obtain ⟨p, -, rfl⟩ := List.mem_map.1 h
    simp [phaseStep]
  rcases List.mem_append.1 h with h | h
  · obtain ⟨i, -, rfl⟩ := List.mem_map.1 h
    simp [invokeStep, callbackStep]
  · obtain ⟨p, -, rfl⟩ := List.mem_map.1 h
    simp [phaseStep]

theorem blame_commits (h : st ∈ d.commits cfg tx) (cause : HookError) (plugin : String)
    (cause' : HookError) : st.blame cause ≠ .phaseVeto .finish plugin cause' := by
  obtain ⟨i, -, rfl⟩ := List.mem_map.1 h
  simp [invokeStep, callbackStep]

/-! ## All or nothing -/

variable {held : σ → τ}

/-- A commit that fails before finish changes nothing; one that goes well, or is vetoed by finish,
makes all changes. -/
theorem commit_all_or_nothing (hr : d.Reversible cfg held) (h : tx.state = .idle) (s : σ) :
    held (Step.stateAfter (d.checks cfg tx) s) = held s ∧
    (∀ e, (d.commit cfg tx s).value = .error e →
      (∀ plugin cause, e ≠ .phaseVeto .finish plugin cause) →
      held (d.commit cfg tx s).state = held s) ∧
    (∀ r, (d.commit cfg tx s).value = .ok r →
      held (d.commit cfg tx s).state = held (d.committed cfg tx s)) ∧
    (∀ plugin cause, (d.commit cfg tx s).value = .error (.phaseVeto .finish plugin cause) →
      held (d.commit cfg tx s).state = held (d.committed cfg tx s)) := by
  refine ⟨Step.stateAfter_of_unchanged (hr.held_checks tx) s, ?_⟩
  cases hc : Step.firstFailure? (d.checks cfg tx) s with
  | some f =>
    rw [(d.performs_commit_of_checks_failure cfg h hc).value]
    refine ⟨fun _ _ _ => hr.held_of_checks_failure h hc, ?_, ?_⟩
    · intro r hok; cases hok
    · intro plugin cause hveto
      exact absurd (Except.error.inj hveto) (blame_checks (Step.step_mem hc) _ plugin cause)
  | none =>
    cases hf : Step.firstFailure? (d.commits cfg (tx.within .completed))
        (Step.stateAfter (d.checks cfg tx) s) with
    | some f =>
      rw [(d.performs_commit_of_commits_failure cfg h hc hf).value]
      refine ⟨fun _ _ _ => hr.held_of_commits_failure h hc hf, ?_, ?_⟩
      · intro r hok; cases hok
      · intro plugin cause hveto
        exact absurd (Except.error.inj hveto) (blame_commits (Step.step_mem hf) _ plugin cause)
    | none =>
      have hs := hr.held_of_none h hc hf
      refine ⟨fun e he hno => ?_, fun _ _ => hs, fun _ _ _ => hs⟩
      rw [(d.performs_commit_of_none cfg h hc hf).value] at he
      cases hk : Step.firstFailure? (d.closing cfg tx) (d.committed cfg tx s) with
      | none =>
        rw [Step.error?_of_none hk] at he
        cases he
      | some f =>
        rw [Step.error?_of_failure hk] at he
        obtain ⟨plugin, hb⟩ := d.blame_phaseSteps cfg _ (Step.step_mem hk) f.cause
        exact absurd ((Except.error.inj he).symm.trans hb) (hno plugin f.cause)

theorem mem_seating {dep : Dependency (Callback Bool Unit)} (h : dep ∈ seating.table.entries) :
    ∃ id key, dep = seatOn id key := by
  simp only [seating, List.mem_cons, List.not_mem_nil, or_false] at h
  rcases h with rfl | rfl | rfl <;> exact ⟨_, _, rfl⟩

theorem seating_reversible : seating.Reversible .standard id where
  failed := by
    intro dep hd _ op view taken cause hfail
    obtain ⟨_, _, rfl⟩ := mem_seating hd
    cases op <;> cases taken <;> first | rfl | cases hfail
  undone := by
    intro dep hd _ op view taken taken' hok hs
    obtain ⟨_, _, rfl⟩ := mem_seating hd
    subst hs
    cases op <;> cases taken <;> first | exact ⟨rfl, rfl⟩ | cases hok
  validating := by
    intro dep hd hk
    obtain ⟨_, _, rfl⟩ := mem_seating hd
    cases hk
  hooks := by
    intro p hp ph hook hh tx s
    obtain rfl := List.mem_singleton.1 hp
    obtain rfl := Option.some.inj hh
    rfl

/-- The seat of `a` is as before when one seat too many is asked for, and free when `a` leaves. -/
theorem commit_all_or_nothing_seating :
    seating.Reversible .standard id ∧ overbook.state = .idle ∧ vacate.state = .idle ∧
    (seating.commit .standard overbook true).state = true ∧
    (seating.commit .standard vacate true).state = false := by
  have hidle : overbook.state = .idle ∧ vacate.state = .idle := ⟨rfl, rfl⟩
  have failed := commit_all_or_nothing seating_reversible hidle.1 true
  have vacated := commit_all_or_nothing seating_reversible hidle.2 true
  refine ⟨seating_reversible, hidle.1, hidle.2, ?_, ?_⟩
  · exact failed.2.1 _ overbook_fails (by intro _ _ h; cases h)
  · exact (vacated.2.2.1 _ vacate_goes_well).trans (by cbv)

end PluginHost.Dispatcher
