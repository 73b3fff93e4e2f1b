import PluginHost.Proofs.Dispatcher.Abort

/-!
# Validations rehearse commits

A validation and a commit of the same transaction, from the same state of the plugins, begin alike.
Where the validation fails, the commit does all that it does, and fails with the same error.  Where
it goes well, the commit begins with its calls, and whatever fails then comes late: a committing
callback or a finish hook.  A validation makes no late calls.

    validate fails with e  → commit makes the same calls and fails with e
    validate goes well     → its calls begin those of commit, whose errors are late
    no call of validate is late                                      (validate_predicts_commit)
-/

namespace PluginHost

/-- Whether a call comes only once a transaction is completed: a committing callback or a finish
hook. -/
def Call.isLate : Call → Bool
  | .callback _ _ kind _ _ _ => !kind.validate
  | .phase _ .finish _ => true
  | _ => false

/-- Whether a failure is one of a late call. -/
def TransactionError.isLate : TransactionError → Bool
  | .callback _ kind _ _ _ => !kind.validate
  | .phaseVeto .finish _ _ => true
  | _ => false

namespace Dispatcher

variable {σ ν : Type} (d : Dispatcher σ ν) (cfg : Config) (tx : Transaction)

/-! ## Late calls -/

theorem isLate_phaseSteps {ph : Phase} (h : ph ≠ .finish) :
    ∀ st ∈ d.phaseSteps cfg tx ph, st.call.isLate = false := by
  intro st hst
  obtain ⟨p, -, rfl⟩ := List.mem_map.1 hst
  cases ph with
  | finish => exact absurd rfl h
  | begin => rfl
  | complete => rfl
  | abort => rfl

theorem isLate_checks : ∀ st ∈ d.checks cfg tx, st.call.isLate = false := by
  intro st hst
  rcases List.mem_append.1 hst with h | h
  · exact d.isLate_phaseSteps cfg _ (by decide) st h
  rcases List.mem_append.1 h with h | h
  · -- the vector of a validation holds validating dependencies only
    obtain ⟨i, hi, rfl⟩ := List.mem_map.1 h
    obtain ⟨-, hk⟩ := Table.mem_commitVector hi
    simp [invokeStep, callbackStep, Call.isLate, hk]
  · exact d.isLate_phaseSteps cfg _ (by decide) st h

theorem isLate_cleanup : ∀ st ∈ d.cleanup cfg tx, st.call.isLate = false := by
  intro st hst
  unfold cleanup at hst
  split at hst
  · exact d.isLate_phaseSteps cfg tx (by decide) st hst
  · cases hst

variable {d cfg tx}

/-- What commits fails late. -/
theorem isLate_blame_commits {st : Step σ ν TransactionError} (h : st ∈ d.commits cfg tx)
    (cause : HookError) : (st.blame cause).isLate = true := by
  obtain ⟨i, hi, rfl⟩ := List.mem_map.1 h
  obtain ⟨-, hk⟩ := mem_order hi
  simp [invokeStep, callbackStep, TransactionError.isLate, hk]

theorem isLate_blame_closing {st : Step σ ν TransactionError} (h : st ∈ d.closing cfg tx)
    (cause : HookError) : (st.blame cause).isLate = true := by
  obtain ⟨plugin, hb⟩ := d.blame_phaseSteps cfg _ h cause
  rw [hb]
  rfl

/-- A validation makes no late calls, of whatever transaction. -/
theorem isLate_validate (s : σ) :
    ∀ c ∈ calls (d.validate cfg tx s).trace, c.isLate = false := by
  by_cases h : tx.state = .idle
  · cases hf : Step.firstFailure? (d.checks cfg tx) s with
    | none => exact (d.performs_validate_of_none cfg h hf).forall_calls (d.isLate_checks cfg tx)
    | some f =>
      refine (d.performs_validate_of_failure cfg h hf).forall_calls fun st hst => ?_
      rcases List.mem_append.1 hst with hst | hst
      · exact d.isLate_checks cfg tx st (Step.mem_of_mem_made hst)
      · exact d.isLate_phaseSteps cfg _ (by decide) st hst
  · exact (d.performs_validate_of_not_idle cfg h).forall_calls (d.isLate_cleanup cfg tx)

/-! ## Two runs -/

variable {s : σ}

/-- Both runs of failing checks are the same, up to what is logged. -/
theorem commit_eq_validate_of_failure {f : Step.Failure σ ν TransactionError}
    (h : tx.state = .idle) (hf : Step.firstFailure? (d.checks cfg tx) s = some f) :
    (d.commit cfg tx s).value = (d.validate cfg tx s).value ∧
      calls (d.commit cfg tx s).trace = calls (d.validate cfg tx s).trace ∧
      (d.commit cfg tx s).state = (d.validate cfg tx s).state := by
  have hv := d.performs_validate_of_failure cfg h hf
  have hc := d.performs_commit_of_checks_failure cfg h hf
  exact ⟨hc.value.trans hv.value.symm, hc.calls.trans hv.calls.symm, hc.state.trans hv.state.symm⟩

/-- After checks that go well a commit goes on from them, and fails late if it does. -/
theorem performs_commit_of_checks (h : tx.state = .idle)
    (hn : Step.firstFailure? (d.checks cfg tx) s = none) :
    ∃ r rest, Performs (d.commit cfg tx) s r (d.checks cfg tx ++ rest) ∧
      ∀ e, r = .error e → e.isLate = true := by
  cases hf : Step.firstFailure? (d.commits cfg (tx.within .completed))
      (Step.stateAfter (d.checks cfg tx) s) with
  | some f =>
    refine ⟨_, _, d.performs_commit_of_commits_failure cfg h hn hf, fun e he => ?_⟩
    rw [← Except.error.inj he]
    exact isLate_blame_commits (Step.step_mem hf) f.cause
  | none =>
    refine ⟨_, _, d.performs_commit_of_none cfg h hn hf, fun e he => ?_⟩
    cases hk : Step.firstFailure? (d.closing cfg tx) (d.committed cfg tx s) with
    | none =>
      rw [Step.error?_of_none hk] at he
      cases he
    | some f =>
      rw [Step.error?_of_failure hk] at he
      rw [← Except.error.inj he]
      exact isLate_blame_closing (Step.step_mem hk) f.cause

variable (d cfg tx)

/-- A validation that fails tells all that the commit would do and how it would fail; one that goes
well tells how the commit begins, and that nothing but late calls can fail; it makes none of them. -/
theorem validate_predicts_commit (s : σ) :
    (tx.state = .idle →
      (∀ e, (d.validate cfg tx s).value = .error e →
        (d.commit cfg tx s).value = .error e ∧
        calls (d.commit cfg tx s).trace = calls (d.validate cfg tx s).trace ∧
        (d.commit cfg tx s).state = (d.validate cfg tx s).state) ∧
      (∀ r, (d.validate cfg tx s).value = .ok r →
        calls (d.validate cfg tx s).trace <+: calls (d.commit cfg tx s).trace ∧
        (∀ e, (d.commit cfg tx s).value = .error e → e.isLate = true) ∧
        r = ⟨tx.id, .completed, tx.changes.length, (d.table.commitVector tx.changes true).length⟩)) ∧
    ∀ c ∈ calls (d.validate cfg tx s).trace, c.isLate = false := by
  refine ⟨fun h => ?_, isLate_validate s⟩
  cases hf : Step.firstFailure? (d.checks cfg tx) s with
  | some f =>
    obtain ⟨hvalue, hcalls, hstate⟩ := commit_eq_validate_of_failure h hf
    refine ⟨fun e he => ⟨hvalue.trans he, hcalls, hstate⟩, fun r hr => ?_⟩
    rw [(d.performs_validate_of_failure cfg h hf).value] at hr
    cases hr
  | none =>
    have hv := d.performs_validate_of_none cfg h hf
    obtain ⟨r, rest, hc, hlate⟩ := performs_commit_of_checks h hf
    refine ⟨fun e he => ?_, fun r' hr => ⟨?_, fun e he => ?_, ?_⟩⟩
    · rw [hv.value] at he
      cases he
    · rw [hv.calls, hc.calls, List.map_append]
      exact List.prefix_append _ _
    · exact hlate e (hc.value.symm.trans he)
    · exact Except.ok.inj (hr.symm.trans hv.value)

/-- The seats are validated though one is missing, and the commit then fails late; what the panel
vetoes in a validation it vetoes in a commit, with the same three calls of abort hooks. -/
theorem validate_predicts_commit_seating :
    overbook.state = .idle ∧ motion.state = .idle ∧
    (seating.validate .standard overbook true).value = .ok ⟨2, .completed, 3, 0⟩ ∧
    (seating.commit .standard overbook true).value
      = .error (.callback "hall" .key "c" .add (.message "no seat")) ∧
    (TransactionError.callback "hall" .key "c" .add (.message "no seat")).isLate = true ∧
    (panel.validate .standard motion ()).value = .error (.phaseVeto .begin "second" (.message "no")) ∧
    (panel.commit .standard motion ()).value = .error (.phaseVeto .begin "second" (.message "no")) ∧
    calls (panel.commit .standard motion ()).trace
      = calls (panel.validate .standard motion ()).trace := by
  have hseats : (seating.validate .standard overbook true).value = .ok ⟨2, .completed, 3, 0⟩ := by
    cbv
  have hveto : (panel.validate .standard motion ()).value
      = .error (.phaseVeto .begin "second" (.message "no")) := by
    cbv
  have late := ((validate_predicts_commit seating .standard overbook true).1 rfl).2 _ hseats
  have veto := ((validate_predicts_commit panel .standard motion ()).1 rfl).1 _ hveto
  exact ⟨rfl, rfl, hseats, overbook_fails, late.2.1 _ overbook_fails, hveto, veto.1, veto.2.1⟩

end Dispatcher

end PluginHost
