import Mathlib.Data.List.Permutation
import PluginHost.Proofs.Dispatcher.Commit

/-!
# The sequence of a commit

A commit that goes well makes the calls of one fixed sequence: checks, commits and closing.  One
that fails makes them up to and including the first that fails, and then those of the recovery.

    (d.commit cfg tx s).value is ok ↔ all calls of the sequence go well
    its calls are those of the sequence, up to the first that fails, and the recovery from there
                                                                     (commit_follows_sequence)
-/

namespace PluginHost.Dispatcher

variable {σ ν : Type} (d : Dispatcher σ ν) (cfg : Config) (tx : Transaction)

/-- All calls of a commit that goes well. -/
def sequence : List (Step σ ν TransactionError) :=
  d.checks cfg tx ++ (d.commits cfg (tx.within .completed) ++ d.closing cfg tx)

/-- What is called after the `n`-th call of the sequence failed.  A veto of finish comes too late
for a recovery. -/
def recovery (n : Nat) : List (Step σ ν TransactionError) :=
  let applied := n - (d.checks cfg tx).length
  if n < (d.checks cfg tx).length then d.phaseSteps cfg (tx.within .vetoed) .abort
  else if applied < (d.order tx).length then
    ((d.order tx).take applied).reverse.map (undoStep cfg (tx.within .completed))
      ++ d.phaseSteps cfg (tx.within .completed) .abort
  else []

variable {tx} {s : σ} {f : Step.Failure σ ν TransactionError}

/-! ## Where a recovery starts -/

theorem recovery_in_checks {n : Nat} (h : n < (d.checks cfg tx).length) :
    d.recovery cfg tx n = d.phaseSteps cfg (tx.within .vetoed) .abort := if_pos h

theorem recovery_in_commits {n : Nat} (h : n < (d.commits cfg (tx.within .completed)).length) :
    d.recovery cfg tx (n + (d.checks cfg tx).length)
      = ((d.order tx).take n).reverse.map (undoStep cfg (tx.within .completed))
        ++ d.phaseSteps cfg (tx.within .completed) .abort := by
  have hn : n < (d.order tx).length := by rwa [commits, List.length_map] at h
  simp only [recovery, Nat.add_sub_cancel]
  rw [if_neg (by omega), if_pos hn]

theorem recovery_in_closing (n : Nat) :
    d.recovery cfg tx
      (n + (d.commits cfg (tx.within .completed)).length + (d.checks cfg tx).length) = [] := by
  have hl : (d.commits cfg (tx.within .completed)).length = (d.order tx).length :=
    List.length_map _
  simp only [recovery, Nat.add_sub_cancel]
  rw [if_neg (by omega), if_neg (by omega)]

/-! ## Commits and their sequence -/

theorem performs_commit_of_goesWell (h : tx.state = .idle)
    (hw : Step.firstFailure? (d.sequence cfg tx) s = none) :
    Performs (d.commit cfg tx) s (.ok (d.report tx)) (d.sequence cfg tx) := by
  rw [sequence, Step.firstFailure?_append_eq_none_iff, Step.firstFailure?_append_eq_none_iff] at hw
  obtain ⟨hc, hm, he⟩ := hw
  have hp := d.performs_commit_of_none cfg h hc hm
  rwa [committed, Step.error?_of_none he, Step.made_of_none he] at hp

theorem performs_commit_of_failure (h : tx.state = .idle)
    (hf : Step.firstFailure? (d.sequence cfg tx) s = some f) :
    Performs (d.commit cfg tx) s (.error f.error)
      (Step.made (d.sequence cfg tx) s ++ d.recovery cfg tx f.position) := by
  unfold sequence at hf ⊢
  cases hc : Step.firstFailure? (d.checks cfg tx) s with
  | some g =>
    rw [Step.firstFailure?_append_of_failure hc, Option.some.injEq] at hf
    subst hf
    rw [Step.made_append_of_failure hc, d.recovery_in_checks cfg (Step.position_lt hc)]
    exact d.performs_commit_of_checks_failure cfg h hc
  | none =>
    rw [Step.firstFailure?_append_of_none hc] at hf
    rw [Step.made_append_of_none hc, List.append_assoc]
    cases hm : Step.firstFailure? (d.commits cfg (tx.within .completed))
        (Step.stateAfter (d.checks cfg tx) s) with
    | some g =>
      rw [Step.firstFailure?_append_of_failure hm, Option.map_some, Option.some.injEq] at hf
      subst hf
      rw [Step.made_append_of_failure hm, Step.Failure.later,
        d.recovery_in_commits cfg (Step.position_lt hm)]
      exact d.performs_commit_of_commits_failure cfg h hc hm
    | none =>
      rw [Step.firstFailure?_append_of_none hm, Option.map_map, Option.map_eq_some_iff] at hf
      obtain ⟨g, hg, rfl⟩ := hf
      have hp := d.performs_commit_of_none cfg h hc hm
      rw [committed, Step.error?_of_failure hg] at hp
      rw [Step.made_append_of_none hm]
      show Performs _ _ _ (_ ++ (_ ++ d.recovery cfg tx (_ + _ + _)))
      rw [recovery_in_closing, List.append_nil]
      exact hp

variable (tx)

/-- A commit makes the calls of its sequence up to the first that fails, each once, and reports
that failure; it goes well just if none fails. -/
theorem commit_follows_sequence (h : tx.state = .idle) (s : σ) :
    ((∃ r, (d.commit cfg tx s).value = .ok r) ↔ Step.GoesWell (d.sequence cfg tx) s) ∧
    (Step.GoesWell (d.sequence cfg tx) s →
      calls (d.commit cfg tx s).trace = (d.sequence cfg tx).map Step.call ∧
      (d.commit cfg tx s).value = .ok (d.report tx)) ∧
    (¬ Step.GoesWell (d.sequence cfg tx) s →
      ∃ n st cause, (d.sequence cfg tx)[n]? = some st ∧
        Step.GoesWell ((d.sequence cfg tx).take n) s ∧
        st.result (Step.stateAfter ((d.sequence cfg tx).take n) s) = .error cause ∧
        calls (d.commit cfg tx s).trace
          = ((d.sequence cfg tx).take (n + 1) ++ d.recovery cfg tx n).map Step.call ∧
        (d.commit cfg tx s).value = .error (st.blame cause)) := by
  generalize hplan : d.sequence cfg tx = plan
  cases hf : Step.firstFailure? plan s with
  | none =>
    have hw := (Step.firstFailure?_eq_none_iff plan s).1 hf
    have hp := d.performs_commit_of_goesWell cfg h (hplan ▸ hf)
    rw [hplan] at hp
    exact ⟨iff_of_true ⟨_, hp.value⟩ hw, fun _ => ⟨hp.calls, hp.value⟩, fun hn => absurd hw hn⟩
  | some f =>
    have hw : ¬ Step.GoesWell plan s := fun hw => by
      rw [(Step.firstFailure?_eq_none_iff plan s).2 hw] at hf
      cases hf
    have hp := d.performs_commit_of_failure cfg h (hplan ▸ hf)
    rw [hplan] at hp
    refine ⟨iff_of_false ?_ hw, fun hn => absurd hn hw, fun _ => ?_⟩
    · rintro ⟨r, hr⟩
      rw [hp.value] at hr
      cases hr
    · obtain ⟨hn, ht, hr⟩ := (Step.firstFailure?_eq_some_iff plan s f).1 hf
      refine ⟨f.position, f.step, f.cause, hn, ht, hr, ?_, hp.value⟩
      rw [hp.calls, Step.made, hf]

/-! ## A seat that changes hands -/

/-- A seat that is free or taken.  Adding a key takes it, deleting one leaves it. -/
def seat : Callback Bool Unit := fun _ op _ taken =>
  match op, taken with
  | .add, false => ⟨.done, true, []⟩
  | .delete, true => ⟨.done, false, []⟩
  | .change, _ => ⟨.done, taken, []⟩
  | _, _ => ⟨.failed (.message "no seat"), taken, []⟩

/-- A key that wants the seat. -/
def seatOn (id : Nat) (key : String) : Dependency (Callback Bool Unit) :=
  ⟨id, "hall", 0, .key, key, none, seat⟩

/-- Three keys that want the same seat. -/
def seating : Dispatcher Bool Unit where
  registry :=
    ⟨[⟨"hall", none, none, none, none, none, fun _ => some fun _ _ => pure .done⟩], [("hall", 0)]⟩
  table :=
    ⟨[seatOn 0 "a", seatOn 1 "b", seatOn 2 "c"], ⟨[("a", [0]), ("b", [1]), ("c", [2])]⟩, 3⟩
  failedInit := []

/-- Key `a` gives up the seat. -/
def vacate : Transaction := .fresh 1 "running" "candidate" [.deleted "a" []]

/-- From key `a` to keys `b` and `c`, one more than there are seats. -/
def overbook : Transaction :=
  .fresh 2 "running" "candidate" [.deleted "a" [], .added "b" [], .added "c" []]

theorem vacate_goes_well :
    (seating.commit .standard vacate true).value = .ok ⟨1, .ended, 1, 1⟩ := by
  cbv

theorem overbook_fails :
    (seating.commit .standard overbook true).value
      = .error (.callback "hall" .key "c" .add (.message "no seat")) := by
  cbv

theorem commit_follows_sequence_seating :
    (vacate.state = .idle ∧ Step.GoesWell (seating.sequence .standard vacate) true) ∧
    overbook.state = .idle ∧ ¬ Step.GoesWell (seating.sequence .standard overbook) true ∧
    ∃ n st cause, (seating.sequence .standard overbook)[n]? = some st ∧
      Step.GoesWell ((seating.sequence .standard overbook).take n) true ∧
      st.result (Step.stateAfter ((seating.sequence .standard overbook).take n) true)
        = .error cause ∧
      calls (seating.commit .standard overbook true).trace
        = ((seating.sequence .standard overbook).take (n + 1)
          ++ seating.recovery .standard overbook n).map Step.call ∧
      (seating.commit .standard overbook true).value = .error (st.blame cause) := by
  have good := commit_follows_sequence seating .standard vacate rfl true
  have bad := commit_follows_sequence seating .standard overbook rfl true
  have hbad : ¬ Step.GoesWell (seating.sequence .standard overbook) true := fun hw => by
    obtain ⟨r, hr⟩ := bad.1.2 hw
    rw [overbook_fails] at hr
    cases hr
  exact ⟨⟨rfl, good.1.1 ⟨_, vacate_goes_well⟩⟩, rfl, hbad, bad.2.2 hbad⟩

end PluginHost.Dispatcher
