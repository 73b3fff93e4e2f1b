import PluginHost.Proofs.Dispatcher.Sequence

/-!
# When a transaction is aborted

A commit or validation calls the abort hooks of all plugins, each once and in order of
registration, just if something failed before finish; they are its last calls, and how they come
out does not matter.  Without such a failure no abort hook is called.

    everything before finish goes well → no abort hook
    something fails before finish      → other calls, then all abort hooks; the first failure
    not idle                           → all abort hooks if it was begun, nothing else; refused
                                                                 (abort_iff_failed_before_finish)
-/

namespace PluginHost

def Call.isAbort : Call → Bool
  | .phase _ .abort _ => true
  | _ => false

namespace Dispatcher

variable {σ ν : Type} (d : Dispatcher σ ν) (cfg : Config) (tx : Transaction)

/-! ## The calls of abort hooks -/

/-- The calls of all abort hooks, in order of registration. -/
def abortCalls : List Call :=
  (d.registry.withHook (.phase .abort)).map fun p => .phase p.name .abort tx

theorem map_call_phaseSteps_abort :
    (d.phaseSteps cfg tx .abort).map Step.call = d.abortCalls tx := by
  rw [phaseSteps, abortCalls, List.map_map]
  rfl

theorem isAbort_phaseSteps {ph : Phase} (h : ph ≠ .abort) :
    ∀ st ∈ d.phaseSteps cfg tx ph, st.call.isAbort = false := by
  intro st hst
  obtain ⟨p, -, rfl⟩ := List.mem_map.1 hst
  cases ph with
  | abort => exact absurd rfl h
  | begin => rfl
  | complete => rfl
  | finish => rfl

theorem isAbort_checks : ∀ st ∈ d.checks cfg tx, st.call.isAbort = false := by
  intro st hst
  rcases List.mem_append.1 hst with h | h
  · exact d.isAbort_phaseSteps cfg _ (by decide) st h
  rcases List.mem_append.1 h with h | h
  · obtain ⟨i, -, rfl⟩ := List.mem_map.1 h
    rfl
  · exact d.isAbort_phaseSteps cfg _ (by decide) st h

theorem isAbort_commits : ∀ st ∈ d.commits cfg tx, st.call.isAbort = false := by
  intro st hst
  obtain ⟨i, -, rfl⟩ := List.mem_map.1 hst
  rfl

theorem isAbort_undoing (applied : List (Invocation (Callback σ ν))) :
    ∀ st ∈ applied.map (undoStep cfg tx), st.call.isAbort = false := by
  intro st hst
  obtain ⟨i, -, rfl⟩ := List.mem_map.1 hst
  rfl

/-! ## Aborts on failure -/

/-- A run aborts on failure: what comes before finish either goes well, and no abort hook is called,
or fails, and the run ends with the abort hooks and reports the first failure. -/
structure AbortsOnFailure {α : Type} (before : List (Step σ ν TransactionError))
    (r : Ran σ (Event ν) (Except TransactionError α)) (s : σ) : Prop where
  quiet : Step.GoesWell before s → ∀ c ∈ calls r.trace, c.isAbort = false
  failed : ¬ Step.GoesWell before s →
    ∃ n st cause, before[n]? = some st ∧ Step.GoesWell (before.take n) s ∧
      st.result (Step.stateAfter (before.take n) s) = .error cause ∧
      r.value = .error (st.blame cause) ∧
      ∃ others left, calls r.trace = others ++ d.abortCalls (tx.within left) ∧
        ∀ c ∈ others, c.isAbort = false

variable {d cfg tx} {s : σ} {α : Type} {before others : List (Step σ ν TransactionError)}
  {m : Act σ (Event ν) (Except TransactionError α)}

theorem AbortsOnFailure.of_none (hn : Step.firstFailure? before s = none) {r : Except _ α}
    (hp : Performs m s r others) (ho : ∀ st ∈ others, st.call.isAbort = false) :
    AbortsOnFailure d tx before (m s) s where
  quiet _ := hp.forall_calls ho
  failed hw := absurd ((Step.firstFailure?_eq_none_iff before s).1 hn) hw

theorem AbortsOnFailure.of_failure {f : Step.Failure σ ν TransactionError}
    (hf : Step.firstFailure? before s = some f) {left : Transaction.State}
    (hp : Performs m s (.error f.error) (others ++ d.phaseSteps cfg (tx.within left) .abort))
    (ho : ∀ st ∈ others, st.call.isAbort = false) : AbortsOnFailure d tx before (m s) s where
  quiet hw := by
    rw [(Step.firstFailure?_eq_none_iff before s).2 hw] at hf
    cases hf
  failed _ := by
    obtain ⟨hn, hw, hr⟩ := (Step.firstFailure?_eq_some_iff before s f).1 hf
    refine ⟨f.position, f.step, f.cause, hn, hw, hr, hp.value, others.map Step.call, left, ?_, ?_⟩
    · rw [hp.calls, List.map_append, map_call_phaseSteps_abort]
    · intro c hc
      obtain ⟨st, hst, rfl⟩ := List.mem_map.1 hc
      exact ho st hst

theorem abortsOnFailure_validate (h : tx.state = .idle) (s : σ) :
    AbortsOnFailure d tx (d.checks cfg tx) (d.validate cfg tx s) s := by
  cases hc : Step.firstFailure? (d.checks cfg tx) s with
  | some f =>
    exact .of_failure hc (d.performs_validate_of_failure cfg h hc) fun st hst =>
      d.isAbort_checks cfg tx st (Step.mem_of_mem_made hst)
  | none => exact .of_none hc (d.performs_validate_of_none cfg h hc) (d.isAbort_checks cfg tx)

theorem abortsOnFailure_commit (h : tx.state = .idle) (s : σ) :
    AbortsOnFailure d tx (d.checks cfg tx ++ d.commits cfg (tx.within .completed))
      (d.commit cfg tx s) s := by
  have hchecks := d.isAbort_checks cfg tx
  have hcommits := d.isAbort_commits cfg (tx.within .completed)
  cases hc : Step.firstFailure? (d.checks cfg tx) s with
  | some f =>
    exact .of_failure (Step.firstFailure?_append_of_failure hc _)
      (d.performs_commit_of_checks_failure cfg h hc) fun st hst =>
        hchecks st (Step.mem_of_mem_made hst)
  | none =>
    have happ := Step.firstFailure?_append_of_none hc (d.commits cfg (tx.within .completed))
    cases hf : Step.firstFailure? (d.commits cfg (tx.within .completed))
        (Step.stateAfter (d.checks cfg tx) s) with
    | some f =>
      have hp := d.performs_commit_of_commits_failure cfg h hc hf
      rw [hf] at happ
      rw [← List.append_assoc, ← List.append_assoc] at hp
      refine .of_failure happ hp fun st hst => ?_
      rcases List.mem_append.1 hst with hst | hst
      · rcases List.mem_append.1 hst with hst | hst
        · exact hchecks st hst
        · exact hcommits st (Step.mem_of_mem_made hst)
      · exact isAbort_undoing cfg _ _ st hst
    | none =>
      rw [hf] at happ
      refine .of_none happ (d.performs_commit_of_none cfg h hc hf) fun st hst => ?_
      rcases List.mem_append.1 hst with hst | hst
      · exact hchecks st hst
      rcases List.mem_append.1 hst with hst | hst
      · exact hcommits st hst
      · exact d.isAbort_phaseSteps cfg _ (by decide) st (Step.mem_of_mem_made hst)

/-! ## Transactions that are not idle -/

theorem map_call_cleanup (d : Dispatcher σ ν) (cfg : Config) (tx : Transaction) :
    (d.cleanup cfg tx).map Step.call =
      if tx.state ∈ [.begun, .validated, .completed, .vetoed] then d.abortCalls tx else [] := by
  unfold cleanup
  by_cases ha : tx.state ∈ Phase.abort.allowed
  · rw [if_pos ha, map_call_phaseSteps_abort]
    exact (if_pos ha).symm
  · rw [if_neg ha]
    exact (if_neg ha).symm

variable (d cfg tx)

/-- Commit and validation abort just if something fails before finish, and then report the first
failure; of a transaction that is not idle they only abort what was begun. -/
theorem abort_iff_failed_before_finish (s : σ) :
    (tx.state = .idle →
      AbortsOnFailure d tx (d.checks cfg tx ++ d.commits cfg (tx.within .completed))
        (d.commit cfg tx s) s ∧
      AbortsOnFailure d tx (d.checks cfg tx) (d.validate cfg tx s) s) ∧
    (tx.state ≠ .idle →
      ((d.commit cfg tx s).value = .error (.invalidState .begin tx.state) ∧
        (d.validate cfg tx s).value = .error (.invalidState .begin tx.state)) ∧
      calls (d.commit cfg tx s).trace
        = (if tx.state ∈ [.begun, .validated, .completed, .vetoed] then d.abortCalls tx else []) ∧
      calls (d.validate cfg tx s).trace
        = if tx.state ∈ [.begun, .validated, .completed, .vetoed] then d.abortCalls tx else []) := by
  refine ⟨fun h => ⟨abortsOnFailure_commit h s, abortsOnFailure_validate h s⟩, fun h => ?_⟩
  have hc := d.performs_commit_of_not_idle cfg h (s := s)
  have hv := d.performs_validate_of_not_idle cfg h (s := s)
  refine ⟨⟨hc.value, hv.value⟩, ?_, ?_⟩
  · rw [hc.calls, map_call_cleanup]
  · rw [hv.calls, map_call_cleanup]

/-! ## A panel that does not agree -/

/-- A plugin that takes part in all phases. -/
def member (name : String) (vote : Phase → Outcome) : Plugin Unit Unit :=
  ⟨name, none, none, none, none, none, fun ph => some fun _ _ => pure (vote ph)⟩

/-- Three members; the second refuses to begin, and panics when it is to abort. -/
def panel : Dispatcher Unit Unit where
  registry :=
    ⟨[member "first" fun _ => .done,
      member "second" fun ph =>
        match ph with
        | .begin => .failed (.message "no")
        | .abort => .panicked .other
        | _ => .done,
      member "third" fun _ => .done],
     [("first", 0), ("second", 1), ("third", 2)]⟩
  table := .empty
  failedInit := []

def motion : Transaction := .fresh 1 "running" "candidate" [.added "a" []]

/-- All members are told of the abort, also the third, which was never asked to begin; a motion that
was vetoed before is only aborted, one that was ended is left alone. -/
theorem abort_iff_failed_before_finish_panel :
    motion.state = .idle ∧
    ¬ Step.GoesWell (panel.checks .standard motion ++ panel.commits .standard
      (motion.within .completed)) () ∧
    (∃ others left, calls (panel.commit .standard motion ()).trace
        = others ++ [.phase "first" .abort (motion.within left),
            .phase "second" .abort (motion.within left),
            .phase "third" .abort (motion.within left)] ∧
      ∀ c ∈ others, c.isAbort = false) ∧
    (motion.within .vetoed).state ≠ .idle ∧ (motion.within .ended).state ≠ .idle ∧
    calls (panel.validate .standard (motion.within .vetoed) ()).trace
      = panel.abortCalls (motion.within .vetoed) ∧
    calls (panel.validate .standard (motion.within .ended) ()).trace = [] := by
  have hw : ¬ Step.GoesWell (panel.checks .standard motion ++ panel.commits .standard
      (motion.within .completed)) () := by
    rw [← Step.firstFailure?_eq_none_iff, ← ne_eq, Option.ne_none_iff_isSome]
    cbv
  have hv : (motion.within .vetoed).state ≠ .idle := by decide
  have he : (motion.within .ended).state ≠ .idle := by decide
  have vetoed := (abort_iff_failed_before_finish panel .standard (motion.within .vetoed) ()).2 hv
  have ended := (abort_iff_failed_before_finish panel .standard (motion.within .ended) ()).2 he
  obtain ⟨_, _, _, _, _, _, _, hcalls⟩ :=
    ((abort_iff_failed_before_finish panel .standard motion ()).1 rfl).1.failed hw
  exact ⟨rfl, hw, hcalls, hv, he, vetoed.2.2, ended.2.2⟩

end Dispatcher

end PluginHost
