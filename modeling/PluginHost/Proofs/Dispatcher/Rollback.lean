import PluginHost.Proofs.Dispatcher.Sequence

/-!
# Rollback

When a committing call fails, the calls that went well before it are undone, the last one first,
and then the abort hooks are called.  How the undoing calls come out does not matter.  Without such
a failure nothing is undone.

    order = applied ++ i :: unreached, i fails →
      calls = checks, applied, i, applied undone in reverse, abort hooks   (rollback_mirrors_commits)
-/

namespace PluginHost.Dispatcher

variable {σ ν : Type} (d : Dispatcher σ ν) (cfg : Config) (tx : Transaction)

/-- The failing call of an order, after calls that go well. -/
theorem commits_at_failure {applied unreached : List (Invocation (Callback σ ν))}
    {i : Invocation (Callback σ ν)} {cause : HookError} {s : σ}
    (ho : d.order tx = applied ++ i :: unreached)
    (hw : Step.GoesWell (applied.map (invokeStep cfg tx)) s)
    (hr : (invokeStep cfg tx i).result (Step.stateAfter (applied.map (invokeStep cfg tx)) s)
      = .error cause) :
    Step.firstFailure? (d.commits cfg tx) s = some ⟨applied.length, invokeStep cfg tx i, cause⟩ ∧
      Step.made (d.commits cfg tx) s
        = applied.map (invokeStep cfg tx) ++ [invokeStep cfg tx i] := by
  rw [← Step.firstFailure?_eq_none_iff] at hw
  rw [commits, ho, List.map_append, List.map_cons]
  constructor
  · rw [Step.firstFailure?_append_of_none hw, Step.firstFailure?_cons_error hr, Option.map_some,
      Step.Failure.later, List.length_map, Nat.zero_add]
  · rw [Step.made_append_of_none hw, Step.made_cons_error hr]

/-- A failed commit undoes just the calls that went well, the last one first, before it aborts; a
commit of which no committing call fails undoes nothing. -/
theorem rollback_mirrors_commits (h : tx.state = .idle) (s : σ) :
    (∀ applied i unreached cause, d.order tx = applied ++ i :: unreached →
      Step.GoesWell (d.checks cfg tx) s →
      Step.GoesWell (applied.map (invokeStep cfg (tx.within .completed)))
        (Step.stateAfter (d.checks cfg tx) s) →
      (invokeStep cfg (tx.within .completed) i).result
          (Step.stateAfter (applied.map (invokeStep cfg (tx.within .completed)))
            (Step.stateAfter (d.checks cfg tx) s)) = .error cause →
      calls (d.commit cfg tx s).trace
          = (d.checks cfg tx ++ applied.map (invokeStep cfg (tx.within .completed))
            ++ [invokeStep cfg (tx.within .completed) i]
            ++ applied.reverse.map (undoStep cfg (tx.within .completed))
            ++ d.phaseSteps cfg (tx.within .completed) .abort).map Step.call ∧
        (d.commit cfg tx s).value = .error
          (.callback i.dependency.plugin i.dependency.kind i.dependency.key i.op cause)) ∧
    (Step.GoesWell (d.checks cfg tx) s →
      Step.GoesWell (d.commits cfg (tx.within .completed)) (Step.stateAfter (d.checks cfg tx) s) →
      calls (d.commit cfg tx s).trace
        = (d.checks cfg tx ++ d.commits cfg (tx.within .completed)
          ++ Step.made (d.closing cfg tx) (d.committed cfg tx s)).map Step.call) ∧
    (¬ Step.GoesWell (d.checks cfg tx) s →
      calls (d.commit cfg tx s).trace
        = (Step.made (d.checks cfg tx) s
          ++ d.phaseSteps cfg (tx.within .vetoed) .abort).map Step.call) := by
  refine ⟨?_, ?_, ?_⟩
  · intro applied i unreached cause ho hc hw hr
    rw [← Step.firstFailure?_eq_none_iff] at hc
    obtain ⟨hf, hm⟩ := d.commits_at_failure cfg (tx.within .completed) ho hw hr
    have hp := d.performs_commit_of_commits_failure cfg h hc hf
    refine ⟨?_, hp.value⟩
    rw [hp.calls, hm, ho, List.take_left]
    simp only [List.append_assoc]
  · intro hc hw
    rw [← Step.firstFailure?_eq_none_iff] at hc hw
    rw [(d.performs_commit_of_none cfg h hc hw).calls, List.append_assoc]
  · intro hc
    cases hf : Step.firstFailure? (d.checks cfg tx) s with
    | none => exact absurd ((Step.firstFailure?_eq_none_iff _ s).1 hf) hc
    | some f => exact (d.performs_commit_of_checks_failure cfg h hf).calls

/-- The seat is left, taken and asked for once more; then it is taken back and given back. -/
theorem rollback_mirrors_commits_overbook :
    let done := overbook.within .completed
    let leave : Invocation (Callback Bool Unit) := ⟨seatOn 0 "a", .delete, [0]⟩
    let take : Invocation (Callback Bool Unit) := ⟨seatOn 1 "b", .add, [1]⟩
    let ask : Invocation (Callback Bool Unit) := ⟨seatOn 2 "c", .add, [2]⟩
    overbook.state = .idle ∧
    seating.order overbook = [leave, take] ++ ask :: [] ∧
    Step.GoesWell (seating.checks .standard overbook) true ∧
    calls (seating.commit .standard overbook true).trace
      = (seating.checks .standard overbook ++ [leave, take].map (invokeStep .standard done)
        ++ [invokeStep .standard done ask] ++ [take, leave].map (undoStep .standard done)
        ++ seating.phaseSteps .standard done .abort).map Step.call := by
  intro done leave take ask
  have horder : seating.order overbook = [leave, take] ++ ask :: [] := by cbv
  have hchecks := (Step.firstFailure?_eq_none_iff (seating.checks .standard overbook) true).1
    (by cbv)
  have h := (rollback_mirrors_commits seating .standard overbook rfl true).1 [leave, take] ask []
    (.message "no seat") horder hchecks ((Step.firstFailure?_eq_none_iff _ _).1 (by cbv)) (by cbv)
  exact ⟨rfl, horder, hchecks, h.1⟩

end PluginHost.Dispatcher
