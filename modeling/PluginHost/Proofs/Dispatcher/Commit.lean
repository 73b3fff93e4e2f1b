import PluginHost.Dispatcher.Commit
import PluginHost.Proofs.Dependency.CommitVector
import PluginHost.Proofs.Dispatcher.Phase

/-!
# Commits as plans

The calls of a commit come in three plans, each for when the one before went well:

    checks    begin hooks, validating calls, complete hooks
    commits   deletions in reverse order, then additions and changes in order
    closing   finish hooks

A failure of the checks aborts.  A failure of the commits undoes those made before it, the last
first, and aborts.  A failure of the closing ends the commit as it stands.

    performs_commit_of_checks_failure     made checks, abort hooks
    performs_commit_of_commits_failure    checks, made commits, undoing calls, abort hooks
    performs_commit_of_none               checks, commits, made closing
    performs_validate_of_failure          made checks, abort hooks
    performs_validate_of_none             checks

A transaction that is not idle is refused at once; what is left open of it is aborted.
-/

namespace PluginHost.Dispatcher

open Transaction (State)

variable {σ ν : Type}

/-! ## The calls -/

/-- The call of a dependency with a view. -/
def callbackStep (cfg : Config) (dep : Dependency (Callback σ ν)) (op : Op) (view : ChangeView) :
    Step σ ν TransactionError where
  call := .callback dep.id dep.plugin dep.kind dep.key op view
  body := dep.callback cfg op view
  blame := .callback dep.plugin dep.kind dep.key op

/-- A call of the commit vector. -/
def invokeStep (cfg : Config) (tx : Transaction) (i : Invocation (Callback σ ν)) :
    Step σ ν TransactionError :=
  callbackStep cfg i.dependency i.op (.ofInvocation tx i)

/-- The call that undoes a call of the commit vector. -/
def undoStep (cfg : Config) (tx : Transaction) (i : Invocation (Callback σ ν)) :
    Step σ ν TransactionError :=
  callbackStep cfg i.dependency i.op.invert (ChangeView.ofInvocation tx i).reversed

/-- The calls that undo what was made before the failure of an order, the last first. -/
def unwind (cfg : Config) (tx : Transaction) (before order : List (Invocation (Callback σ ν))) :
    Option (Step.Failure σ ν TransactionError) → List (Step σ ν TransactionError)
  | none => []
  | some f => (before ++ order.take f.position).reverse.map (undoStep cfg tx)

variable (d : Dispatcher σ ν) (cfg : Config) (tx : Transaction)

/-- The committing calls of a transaction, in the order in which they are made. -/
def order : List (Invocation (Callback σ ν)) :=
  let vector := d.table.commitVector tx.changes false
  (vector.filter fun i => i.op = .delete).reverse ++ vector.filter fun i => i.op ≠ .delete

/-- What is called before anything is committed. -/
def checks : List (Step σ ν TransactionError) :=
  d.phaseSteps cfg (tx.within .begun) .begin
    ++ ((d.table.commitVector tx.changes true).map (invokeStep cfg (tx.within .begun))
    ++ d.phaseSteps cfg (tx.within .validated) .complete)

/-- What commits. -/
def commits : List (Step σ ν TransactionError) := (d.order tx).map (invokeStep cfg tx)

/-- The state once all is committed. -/
def committed (s : σ) : σ :=
  Step.stateAfter (d.commits cfg (tx.within .completed)) (Step.stateAfter (d.checks cfg tx) s)

/-- What is called once all is committed. -/
def closing : List (Step σ ν TransactionError) :=
  d.phaseSteps cfg (tx.within .completed) .finish

/-- The committing calls are calls of committing dependencies. -/
theorem mem_order {d : Dispatcher σ ν} {tx : Transaction} {i : Invocation (Callback σ ν)}
    (h : i ∈ d.order tx) : i.dependency ∈ d.table.entries ∧ i.dependency.kind.validate = false := by
  have hv : i ∈ d.table.commitVector tx.changes false := by
    rcases List.mem_append.1 h with h | h
    · exact (List.mem_filter.1 (List.mem_reverse.1 h)).1
    · exact (List.mem_filter.1 h).1
  exact Table.mem_commitVector hv

/-! ## Callbacks -/

theorem performs_logChanges (op : Op) (changes : List Change) (s : σ) :
    Performs (logChanges op changes : Act σ (Event ν) Unit) s ()
      ([] : List (Step σ ν TransactionError)) := by
  induction changes generalizing s with
  | nil => exact Performs.pure _ _
  | cons c changes ih =>
    cases op with
    | add => exact (Performs.log _ _ s).quiet_bind (ih s)
    | delete => exact (Performs.log _ _ s).quiet_bind (ih s)
    | change => exact (Performs.log _ _ s).quiet_bind ((Performs.log _ _ s).quiet_bind (ih s))

theorem performs_callBack (dep : Dependency (Callback σ ν)) (op : Op) (view : ChangeView) (s : σ) :
    let st := callbackStep cfg dep op view
    Performs (callBack cfg dep op view) s ((st.result s).mapError st.blame) [st] := by
  intro st
  unfold callBack
  have hp := Performs.perform st.call st.body st.blame s
  refine (performs_logChanges op view.changes s).quiet_bind ?_
  cases hr : st.result s with
  | error e =>
    rw [show (st.body s).value.result = .error e from hr] at hp
    exact hp.bind_quiet (Performs.pure _ _)
  | ok u =>
    rw [show (st.body s).value.result = .ok u from hr] at hp
    exact hp.bind_quiet (Performs.pure _ _)

theorem performs_invoke (i : Invocation (Callback σ ν)) (s : σ) :
    Performs (invoke cfg tx i) s
      (((invokeStep cfg tx i).result s).mapError (invokeStep cfg tx i).blame)
      [invokeStep cfg tx i] :=
  performs_callBack cfg i.dependency i.op _ s

theorem performs_undo (i : Invocation (Callback σ ν)) (s : σ) :
    Performs (undo cfg tx i) s () [undoStep cfg tx i] := by
  have hc : Performs _ s (((undoStep cfg tx i).result s).mapError (undoStep cfg tx i).blame)
      [undoStep cfg tx i] :=
    performs_callBack cfg i.dependency i.op.invert (ChangeView.ofInvocation tx i).reversed s
  unfold undo
  -- whether the call fails is only logged
  cases hr : (undoStep cfg tx i).result s with
  | error e =>
    rw [hr] at hc
    exact hc.bind_quiet (Performs.log _ _ _)
  | ok u =>
    rw [hr] at hc
    exact hc.bind_quiet (Performs.pure _ _)

theorem performs_undoAll (calls : List (Invocation (Callback σ ν))) (s : σ) :
    Performs (undoAll cfg tx calls) s () (calls.map (undoStep cfg tx)) := by
  induction calls generalizing s with
  | nil => exact Performs.pure _ _
  | cons i calls ih => exact (performs_undo cfg tx i s).bind (ih _)

/-! ## The two passes -/

/-- A failure in the second part of an order undoes the first part as well. -/
theorem unwind_later (before first second : List (Invocation (Callback σ ν)))
    (failed : Option (Step.Failure σ ν TransactionError)) :
    unwind cfg tx before (first ++ second) (failed.map (Step.Failure.later first.length))
      = unwind cfg tx (before ++ first) second failed := by
  cases failed with
  | none => rfl
  | some f =>
    simp only [unwind, Step.Failure.later, Option.map_some]
    rw [Nat.add_comm, List.take_length_add_append, List.append_assoc]

theorem unwind_of_position_le (before first second : List (Invocation (Callback σ ν)))
    {f : Step.Failure σ ν TransactionError} (h : f.position ≤ first.length) :
    unwind cfg tx before (first ++ second) (some f) = unwind cfg tx before first (some f) := by
  rw [unwind, unwind, List.take_append_of_le_length h]

theorem performs_applyPass (earlier applied rest : List (Invocation (Callback σ ν))) (s : σ) :
    Performs (applyPass cfg tx earlier applied rest) s
      (Step.verdict (applied ++ rest) (Step.error? (rest.map (invokeStep cfg tx)) s))
      (Step.made (rest.map (invokeStep cfg tx)) s
        ++ unwind cfg tx (earlier ++ applied) rest
          (Step.firstFailure? (rest.map (invokeStep cfg tx)) s)) := by
  induction rest generalizing applied s with
  | nil =>
    rw [List.map_nil, List.append_nil]
    exact Performs.pure _ _
  | cons i rest ih =>
    have hi := performs_invoke cfg tx i s
    unfold applyPass
    rw [List.map_cons]
    cases hr : (invokeStep cfg tx i).result s with
    | error e =>
      rw [hr] at hi
      rw [Step.firstFailure?_cons_error hr, Step.error?_cons_error hr, Step.made_cons_error hr,
        unwind, List.take_zero, List.append_nil, List.reverse_append, List.map_append]
      refine hi.bind ((performs_undoAll cfg tx _ _).bind ?_)
      exact (performs_undoAll cfg tx _ _).bind_quiet (Performs.pure _ _)
    | ok u =>
      rw [hr] at hi
      have hrest := ih (applied ++ [i]) (Step.stateAfter [invokeStep cfg tx i] s)
      rw [List.append_assoc applied, ← List.append_assoc earlier, ← unwind_later] at hrest
      rw [Step.firstFailure?_cons_ok hr, Step.error?_cons_ok hr, Step.made_cons_ok hr]
      exact hi.bind hrest

theorem performs_applyVector (s : σ) :
    Performs (d.applyVector cfg tx) s
      (Step.verdict (d.table.commitVector tx.changes false).length
        (Step.error? (d.commits cfg tx) s))
      (Step.made (d.commits cfg tx) s
        ++ unwind cfg tx [] (d.order tx) (Step.firstFailure? (d.commits cfg tx) s)) := by
  let vector := d.table.commitVector tx.changes false
  let deletes := (vector.filter fun i => i.op = .delete).reverse
  let updates := vector.filter fun i => i.op ≠ .delete
  have hplan : d.commits cfg tx = deletes.map (invokeStep cfg tx) ++ updates.map (invokeStep cfg tx) :=
    List.map_append
  have hd := performs_applyPass cfg tx [] [] deletes s
  unfold applyVector
  rw [hplan, show d.order tx = deletes ++ updates from rfl]
  cases hf : Step.firstFailure? (deletes.map (invokeStep cfg tx)) s with
  | some f =>
    have hlt : f.position < deletes.length := by simpa using Step.position_lt hf
    rw [hf, Step.error?_of_failure hf, List.append_nil] at hd
    rw [Step.firstFailure?_append_of_failure hf, Step.error?_append_of_failure hf,
      Step.made_append_of_failure hf, unwind_of_position_le cfg tx [] deletes updates (by omega)]
    exact hd.bind_quiet (Performs.pure _ _)
  | none =>
    have hu := performs_applyPass cfg tx deletes [] updates
      (Step.stateAfter (deletes.map (invokeStep cfg tx)) s)
    rw [hf, Step.error?_of_none hf, Step.made_of_none hf, unwind, List.append_nil] at hd
    rw [Step.firstFailure?_append_of_none hf, Step.error?_append_of_none hf,
      Step.made_append_of_none hf, List.length_map, unwind_later, List.append_assoc]
    rw [List.append_nil] at hu
    refine hd.bind (hu.bind_quiet ?_)
    cases Step.error? (updates.map (invokeStep cfg tx)) _ <;> exact Performs.pure _ _

/-! ## The stages -/

theorem performs_runValidation (h : tx.state = .idle) (s : σ) :
    Performs (d.runValidation cfg tx) s
      (ending (d.table.commitVector tx.changes true).length (tx.within .completed)
        (tx.within .vetoed) (Step.error? (d.checks cfg tx) s))
      (Step.made (d.checks cfg tx) s) := by
  unfold runValidation checks
  refine (d.performs_begin cfg tx h s).follow (fun e s => Performs.pure _ _) fun s => ?_
  have hv : Performs (untilFailure (invoke cfg (tx.within .begun))
      (d.table.commitVector tx.changes true)) s _ _ :=
    Performs.untilFailure (fun i _ s => performs_invoke cfg (tx.within .begun) i s) s
  refine hv.follow (fun e s => Performs.pure _ _) fun s => ?_
  have hc := d.performs_complete cfg (tx.within .validated)
    (List.mem_cons_of_mem _ List.mem_cons_self) s
  refine hc.settle fun o s => ?_
  cases o <;> exact Performs.pure _ _

theorem performs_giveUp (h : tx.state ∈ Phase.abort.allowed) (e : TransactionError) (s : σ) :
    Performs (d.giveUp cfg tx e) s () (d.phaseSteps cfg tx .abort) := by
  obtain ⟨n, hn⟩ := d.performs_abort cfg tx h s
  unfold giveUp
  exact (Performs.log _ _ s).quiet_bind (hn.bind_quiet (Performs.pure _ _))

/-! ## The three ways of a commit -/

/-- What a commit reports when all goes well. -/
def report : Summary where
  id := tx.id
  state := .ended
  changes := tx.changes.length
  callbacks :=
    (d.table.commitVector tx.changes true).length + (d.table.commitVector tx.changes false).length

variable {tx} {s : σ} {f : Step.Failure σ ν TransactionError}

theorem performs_commit_of_checks_failure (h : tx.state = .idle)
    (hf : Step.firstFailure? (d.checks cfg tx) s = some f) :
    Performs (d.commit cfg tx) s (.error f.error)
      (Step.made (d.checks cfg tx) s ++ d.phaseSteps cfg (tx.within .vetoed) .abort) := by
  have hv := d.performs_runValidation cfg tx h s
  have hg := d.performs_giveUp cfg (tx.within .vetoed) (by show State.vetoed ∈ _; decide) f.error
  rw [Step.error?_of_failure hf] at hv
  unfold commit
  refine (Performs.log _ _ s).quiet_bind (hv.bind ?_)
  exact (hg _).bind_quiet (Performs.pure _ _)

theorem performs_commit_of_commits_failure (h : tx.state = .idle)
    (hc : Step.firstFailure? (d.checks cfg tx) s = none)
    (hf : Step.firstFailure? (d.commits cfg (tx.within .completed))
      (Step.stateAfter (d.checks cfg tx) s) = some f) :
    Performs (d.commit cfg tx) s (.error f.error)
      (d.checks cfg tx
        ++ (Step.made (d.commits cfg (tx.within .completed)) (Step.stateAfter (d.checks cfg tx) s)
        ++ (((d.order tx).take f.position).reverse.map (undoStep cfg (tx.within .completed))
        ++ d.phaseSteps cfg (tx.within .completed) .abort))) := by
  have hv := d.performs_runValidation cfg tx h s
  have ha := d.performs_applyVector cfg (tx.within .completed) (Step.stateAfter (d.checks cfg tx) s)
  have hg := d.performs_giveUp cfg (tx.within .completed) (by show State.completed ∈ _; decide)
    f.error
  rw [Step.error?_of_none hc, Step.made_of_none hc] at hv
  rw [hf, Step.error?_of_failure hf] at ha
  unfold commit
  rw [← List.append_assoc (Step.made _ _)]
  refine (Performs.log _ _ s).quiet_bind (hv.bind (ha.bind ?_))
  exact (hg _).bind_quiet (Performs.pure _ _)

theorem performs_commit_of_none (h : tx.state = .idle)
    (hc : Step.firstFailure? (d.checks cfg tx) s = none)
    (hf : Step.firstFailure? (d.commits cfg (tx.within .completed))
      (Step.stateAfter (d.checks cfg tx) s) = none) :
    Performs (d.commit cfg tx) s
      (Step.verdict (d.report tx) (Step.error? (d.closing cfg tx) (d.committed cfg tx s)))
      (d.checks cfg tx ++ (d.commits cfg (tx.within .completed)
        ++ Step.made (d.closing cfg tx) (d.committed cfg tx s))) := by
  have hv := d.performs_runValidation cfg tx h s
  have ha := d.performs_applyVector cfg (tx.within .completed) (Step.stateAfter (d.checks cfg tx) s)
  rw [Step.error?_of_none hc, Step.made_of_none hc] at hv
  rw [hf, Step.error?_of_none hf, Step.made_of_none hf, unwind, List.append_nil] at ha
  unfold commit
  refine (Performs.log _ _ s).quiet_bind (hv.bind (ha.bind ?_))
  refine (d.performs_finish cfg (tx.within .completed) rfl _).settle fun o s => ?_
  cases o <;> exact (Performs.log _ _ s).quiet_bind (Performs.pure _ _)

/-! ## The two ways of a validation -/

theorem performs_validate_of_failure (h : tx.state = .idle)
    (hf : Step.firstFailure? (d.checks cfg tx) s = some f) :
    Performs (d.validate cfg tx) s (.error f.error)
      (Step.made (d.checks cfg tx) s ++ d.phaseSteps cfg (tx.within .vetoed) .abort) := by
  have hv := d.performs_runValidation cfg tx h s
  have hg := d.performs_giveUp cfg (tx.within .vetoed) (by show State.vetoed ∈ _; decide) f.error
  rw [Step.error?_of_failure hf] at hv
  unfold validate
  refine (Performs.log _ _ s).quiet_bind (hv.bind ?_)
  exact (hg _).bind_quiet (Performs.pure _ _)

theorem performs_validate_of_none (h : tx.state = .idle)
    (hf : Step.firstFailure? (d.checks cfg tx) s = none) :
    Performs (d.validate cfg tx) s
      (.ok ((tx.within .completed).summary (d.table.commitVector tx.changes true).length))
      (d.checks cfg tx) := by
  have hv := d.performs_runValidation cfg tx h s
  rw [Step.error?_of_none hf, Step.made_of_none hf] at hv
  unfold validate
  refine (Performs.log _ _ s).quiet_bind (hv.bind_quiet ?_)
  exact (Performs.log _ _ _).quiet_bind (Performs.pure _ _)

/-! ## Transactions that are not idle -/

/-- What is called for a transaction that is not idle: the abort hooks, if it can be aborted. -/
def cleanup (tx : Transaction) : List (Step σ ν TransactionError) :=
  if tx.state ∈ Phase.abort.allowed then d.phaseSteps cfg tx .abort else []

theorem begin_of_not_idle (h : tx.state ≠ .idle) :
    d.begin cfg tx = pure (.error (.invalidState .begin tx.state), tx) := by
  unfold begin
  rw [if_neg (by simpa [Phase.allowed] using h)]

theorem performs_runValidation_of_not_idle (h : tx.state ≠ .idle) :
    Performs (d.runValidation cfg tx) s (.error (.invalidState .begin tx.state), tx)
      ([] : List (Step σ ν TransactionError)) := by
  unfold runValidation
  rw [d.begin_of_not_idle cfg h]
  exact (Performs.pure _ _).quiet_bind (Performs.pure _ _)

theorem performs_giveUp_cleanup (e : TransactionError) :
    Performs (d.giveUp cfg tx e) s () (d.cleanup cfg tx) := by
  by_cases ha : tx.state ∈ Phase.abort.allowed
  · rw [cleanup, if_pos ha]
    exact d.performs_giveUp cfg tx ha e s
  · rw [cleanup, if_neg ha]
    unfold giveUp abort
    rw [if_neg ha]
    refine (Performs.log _ _ s).quiet_bind ((Performs.pure _ _).quiet_bind ?_)
    exact Performs.log _ _ _

theorem performs_commit_of_not_idle (h : tx.state ≠ .idle) :
    Performs (d.commit cfg tx) s (.error (.invalidState .begin tx.state)) (d.cleanup cfg tx) := by
  unfold commit
  refine (Performs.log _ _ s).quiet_bind ((d.performs_runValidation_of_not_idle cfg h).quiet_bind ?_)
  exact (d.performs_giveUp_cleanup cfg _).bind_quiet (Performs.pure _ _)

theorem performs_validate_of_not_idle (h : tx.state ≠ .idle) :
    Performs (d.validate cfg tx) s (.error (.invalidState .begin tx.state)) (d.cleanup cfg tx) := by
  unfold validate
  refine (Performs.log _ _ s).quiet_bind ((d.performs_runValidation_of_not_idle cfg h).quiet_bind ?_)
  exact (d.performs_giveUp_cleanup cfg _).bind_quiet (Performs.pure _ _)

end PluginHost.Dispatcher
