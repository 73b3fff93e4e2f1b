import PluginHost.Dispatcher

/-!
# Plans of calls

A plan lists calls of hooks and callbacks that are to be made one after another.  What comes of a
plan depends on the state from which it starts, for every call may change the state and may look
at it to decide whether it fails.

    stateAfter plan s      the state after all calls of a plan
    firstFailure? plan s   the first call that fails, those before it made from state s
    made plan s            the calls up to and including that one; all, if none fails
    GoesWell plan s        no call fails, each in the state that those before it leave

    firstFailure? plan s = none ↔ GoesWell plan s                      (firstFailure?_eq_none_iff)
    firstFailure? plan s = some f ↔ all before f go well, f fails      (firstFailure?_eq_some_iff)

`Performs m s a plan` says that an act, run from a state, gives a value, makes just the calls of a
plan, in order, and leaves the state they leave.  It follows the shape of acts: `pure`, `bind`, a
single call (`perform`), the two fan-outs (`untilFailure`, `countFailures`), and one plan after
another for as long as all goes well (`follow`, `settle`).
-/

namespace PluginHost

variable {σ ν η : Type}

/-! ## Plans -/

/-- A call that is to be made: what the trace shows of it, what it does, and the error that its
failure makes. -/
structure Step (σ ν η : Type) where
  call : Call
  body : Act σ (Note ν) Outcome
  blame : HookError → η

/-- A call of a plan that fails. -/
structure Step.Failure (σ ν η : Type) where
  position : Nat
  step : Step σ ν η
  cause : HookError

/-- The error that a failure makes. -/
def Step.Failure.error (f : Step.Failure σ ν η) : η := f.step.blame f.cause

/-- The same failure behind `n` more calls. -/
def Step.Failure.later (n : Nat) (f : Step.Failure σ ν η) : Step.Failure σ ν η :=
  ⟨f.position + n, f.step, f.cause⟩

namespace Step

def result (st : Step σ ν η) (s : σ) : Except HookError Unit := (st.body s).value.result

/-- The state after all calls of a plan, whatever comes of them. -/
def stateAfter (plan : List (Step σ ν η)) (s : σ) : σ :=
  plan.foldl (fun s st => (st.body s).state) s

/-- The first call of a plan that fails. -/
def firstFailure? : List (Step σ ν η) → σ → Option (Failure σ ν η)
  | [], _ => none
  | st :: rest, s =>
    match st.result s with
    | .error e => some ⟨0, st, e⟩
    | .ok () => (firstFailure? rest (st.body s).state).map (Failure.later 1)

/-- The calls of a plan that are made: up to and including the first that fails. -/
def made (plan : List (Step σ ν η)) (s : σ) : List (Step σ ν η) :=
  match firstFailure? plan s with
  | none => plan
  | some f => plan.take (f.position + 1)

/-- The error that a plan ends with. -/
def error? (plan : List (Step σ ν η)) (s : σ) : Option η :=
  (firstFailure? plan s).map Failure.error

/-- A value, unless there is an error. -/
def verdict {α : Type} (a : α) : Option η → Except η α
  | none => .ok a
  | some e => .error e

/-- All calls of a plan go well, each in the state that those before it leave. -/
def GoesWell (plan : List (Step σ ν η)) (s : σ) : Prop :=
  ∀ (n : Nat) (st : Step σ ν η), plan[n]? = some st →
    st.result (stateAfter (plan.take n) s) = .ok ()

/-! ## Lemmas on plans -/

@[simp] theorem stateAfter_nil (s : σ) : stateAfter ([] : List (Step σ ν η)) s = s := rfl

@[simp] theorem stateAfter_cons (st : Step σ ν η) (plan : List (Step σ ν η)) (s : σ) :
    stateAfter (st :: plan) s = stateAfter plan (st.body s).state := rfl

@[simp] theorem stateAfter_append (p q : List (Step σ ν η)) (s : σ) :
    stateAfter (p ++ q) s = stateAfter q (stateAfter p s) := by
  rw [stateAfter, List.foldl_append]
  rfl

theorem firstFailure?_cons_error {st : Step σ ν η} {s : σ} {e : HookError}
    (h : st.result s = .error e) (plan : List (Step σ ν η)) :
    firstFailure? (st :: plan) s = some ⟨0, st, e⟩ := by
  simp only [firstFailure?, h]

theorem firstFailure?_cons_ok {st : Step σ ν η} {s : σ} (h : st.result s = .ok ())
    (plan : List (Step σ ν η)) :
    firstFailure? (st :: plan) s = (firstFailure? plan (st.body s).state).map (Failure.later 1) := by
  simp only [firstFailure?, h]

theorem firstFailure?_append_of_failure {p : List (Step σ ν η)} {s : σ} {f : Failure σ ν η}
    (h : firstFailure? p s = some f) (q : List (Step σ ν η)) :
    firstFailure? (p ++ q) s = some f := by
  induction p generalizing s f with
  | nil => cases h
  | cons st p ih =>
    rw [List.cons_append]
    cases hr : st.result s with
    | error e => rwa [firstFailure?_cons_error hr] at h ⊢
    | ok u =>
      rw [firstFailure?_cons_ok hr] at h ⊢
      obtain ⟨g, hg, rfl⟩ := Option.map_eq_some_iff.1 h
      rw [ih hg]
      rfl

/-- A failure is later by the calls that went well before the plan. -/
theorem firstFailure?_append_of_none {p : List (Step σ ν η)} {s : σ}
    (h : firstFailure? p s = none) (q : List (Step σ ν η)) :
    firstFailure? (p ++ q) s = (firstFailure? q (stateAfter p s)).map (Failure.later p.length) := by
  induction p generalizing s with
  | nil => exact Option.map_id'.symm
  | cons st p ih =>
    rw [List.cons_append]
    cases hr : st.result s with
    | error e => rw [firstFailure?_cons_error hr] at h; cases h
    | ok u =>
      rw [firstFailure?_cons_ok hr, Option.map_eq_none_iff] at h
      rw [firstFailure?_cons_ok hr, ih h, Option.map_map]
      rfl

theorem firstFailure?_append_eq_none_iff (p q : List (Step σ ν η)) (s : σ) :
    firstFailure? (p ++ q) s = none ↔
      firstFailure? p s = none ∧ firstFailure? q (stateAfter p s) = none := by
  cases h : firstFailure? p s with
  | some f => simp [firstFailure?_append_of_failure h]
  | none => simp [firstFailure?_append_of_none h]

theorem goesWell_nil (s : σ) : GoesWell ([] : List (Step σ ν η)) s := by
  intro n st h
  simp at h

theorem goesWell_cons (st : Step σ ν η) (plan : List (Step σ ν η)) (s : σ) :
    GoesWell (st :: plan) s ↔ st.result s = .ok () ∧ GoesWell plan (st.body s).state := by
  constructor
  · intro h
    exact ⟨h 0 st rfl, fun n st' hn => h (n + 1) st' hn⟩
  · rintro ⟨h0, h⟩ n st' hn
    cases n with
    | zero =>
      obtain rfl : st = st' := by simpa using hn
      exact h0
    | succ n => exact h n st' (by simpa using hn)

theorem firstFailure?_eq_none_iff (plan : List (Step σ ν η)) (s : σ) :
    firstFailure? plan s = none ↔ GoesWell plan s := by
  induction plan generalizing s with
  | nil => exact ⟨fun _ => goesWell_nil s, fun _ => rfl⟩
  | cons st plan ih =>
    rw [goesWell_cons, ← ih]
    cases h : st.result s with
    | error e => simp [firstFailure?_cons_error h]
    | ok u => simp [firstFailure?_cons_ok h]

/-- The first failure is a call that fails after all before it went well. -/
theorem firstFailure?_eq_some_iff (plan : List (Step σ ν η)) (s : σ) (f : Failure σ ν η) :
    firstFailure? plan s = some f ↔
      plan[f.position]? = some f.step ∧ GoesWell (plan.take f.position) s ∧
        f.step.result (stateAfter (plan.take f.position) s) = .error f.cause := by
  induction plan generalizing s f with
  | nil => simp [firstFailure?]
  | cons st plan ih =>
    obtain ⟨n, st', e⟩ := f
    cases h : st.result s with
    | error e' =>
      rw [firstFailure?_cons_error h]
      cases n with
      | zero =>
        constructor
        · intro hf
          obtain ⟨-, rfl, rfl⟩ : 0 = 0 ∧ st = st' ∧ e' = e := by simpa using hf
          exact ⟨rfl, goesWell_nil s, h⟩
        · rintro ⟨hst, -, hr⟩
          obtain rfl : st = st' := by simpa using hst
          rw [List.take_zero, stateAfter_nil, h, Except.error.injEq] at hr
          simp [hr]
      | succ n =>
        constructor
        · intro hf; simp at hf
        · rintro ⟨-, hw, -⟩
          have := ((goesWell_cons st _ s).1 hw).1
          rw [h] at this
          cases this
    | ok u =>
      rw [firstFailure?_cons_ok h]
      cases n with
      | zero =>
        constructor
        · intro hf; simp [Failure.later] at hf
        · rintro ⟨hst, -, hr⟩
          obtain rfl : st = st' := by simpa using hst
          rw [List.take_zero, stateAfter_nil, h] at hr
          cases hr
      | succ n =>
        have hi := ih (st.body s).state ⟨n, st', e⟩
        simp only [List.getElem?_cons_succ, List.take_succ_cons, stateAfter_cons, goesWell_cons]
        rw [h, eq_self, true_and, ← hi, Option.map_eq_some_iff]
        constructor
        · rintro ⟨g, hg, hgf⟩
          obtain ⟨rfl, rfl, rfl⟩ : g.position = n ∧ g.step = st' ∧ g.cause = e := by
            simpa [Failure.later] using hgf
          exact hg
        · intro hg; exact ⟨_, hg, rfl⟩

theorem position_lt {plan : List (Step σ ν η)} {s : σ} {f : Failure σ ν η}
    (h : firstFailure? plan s = some f) : f.position < plan.length :=
  (List.getElem?_eq_some_iff.1 ((firstFailure?_eq_some_iff plan s f).1 h).1).1

theorem step_mem {plan : List (Step σ ν η)} {s : σ} {f : Failure σ ν η}
    (h : firstFailure? plan s = some f) : f.step ∈ plan :=
  List.mem_of_getElem? ((firstFailure?_eq_some_iff plan s f).1 h).1

theorem made_cons_error {st : Step σ ν η} {s : σ} {e : HookError} (h : st.result s = .error e)
    (plan : List (Step σ ν η)) : made (st :: plan) s = [st] := by
  simp [made, firstFailure?_cons_error h]

theorem made_cons_ok {st : Step σ ν η} {s : σ} (h : st.result s = .ok ())
    (plan : List (Step σ ν η)) : made (st :: plan) s = st :: made plan (st.body s).state := by
  simp only [made, firstFailure?_cons_ok h]
  cases firstFailure? plan (st.body s).state <;> rfl

theorem made_of_none {plan : List (Step σ ν η)} {s : σ} (h : firstFailure? plan s = none) :
    made plan s = plan := by
  simp only [made, h]

theorem made_append_of_failure {p : List (Step σ ν η)} {s : σ} {f : Failure σ ν η}
    (h : firstFailure? p s = some f) (q : List (Step σ ν η)) : made (p ++ q) s = made p s := by
  have := position_lt h
  simp only [made, firstFailure?_append_of_failure h, h]
  rw [List.take_append_of_le_length (by omega)]

theorem made_append_of_none {p : List (Step σ ν η)} {s : σ} (h : firstFailure? p s = none)
    (q : List (Step σ ν η)) : made (p ++ q) s = p ++ made q (stateAfter p s) := by
  simp only [made, firstFailure?_append_of_none h]
  cases firstFailure? q (stateAfter p s) with
  | none => rfl
  | some f =>
    show (p ++ q).take (f.position + p.length + 1) = p ++ q.take (f.position + 1)
    rw [Nat.add_right_comm, Nat.add_comm, List.take_length_add_append]

theorem made_isPrefix (plan : List (Step σ ν η)) (s : σ) : made plan s <+: plan := by
  unfold made
  split
  · exact List.prefix_rfl
  · exact List.take_prefix _ _

theorem mem_of_mem_made {plan : List (Step σ ν η)} {s : σ} {st : Step σ ν η}
    (h : st ∈ made plan s) : st ∈ plan :=
  (made_isPrefix plan s).subset h

theorem stateAfter_made_of_failure {plan : List (Step σ ν η)} {s : σ} {f : Failure σ ν η}
    (h : firstFailure? plan s = some f) :
    stateAfter (made plan s) s = (f.step.body (stateAfter (plan.take f.position) s)).state := by
  obtain ⟨hn, -, -⟩ := (firstFailure?_eq_some_iff plan s f).1 h
  simp only [made, h]
  rw [List.take_add_one, hn, stateAfter_append]
  rfl

/-- What no call of a plan changes is as it was after the plan. -/
theorem stateAfter_of_unchanged {τ : Type} {held : σ → τ} {plan : List (Step σ ν η)}
    (h : ∀ st ∈ plan, ∀ s, held (st.body s).state = held s) (s : σ) :
    held (stateAfter plan s) = held s := by
  induction plan generalizing s with
  | nil => rfl
  | cons st plan ih =>
    rw [stateAfter_cons, ih fun st' hst' => h st' (List.mem_cons_of_mem _ hst')]
    exact h st List.mem_cons_self s

theorem error?_cons_error {st : Step σ ν η} {s : σ} {e : HookError} (h : st.result s = .error e)
    (plan : List (Step σ ν η)) : error? (st :: plan) s = some (st.blame e) := by
  rw [error?, firstFailure?_cons_error h]
  rfl

theorem error?_cons_ok {st : Step σ ν η} {s : σ} (h : st.result s = .ok ())
    (plan : List (Step σ ν η)) : error? (st :: plan) s = error? plan (st.body s).state := by
  rw [error?, firstFailure?_cons_ok h, Option.map_map]
  rfl

theorem error?_of_failure {plan : List (Step σ ν η)} {s : σ} {f : Failure σ ν η}
    (h : firstFailure? plan s = some f) : error? plan s = some f.error := by
  rw [error?, h]
  rfl

theorem error?_of_none {plan : List (Step σ ν η)} {s : σ} (h : firstFailure? plan s = none) :
    error? plan s = none := by
  rw [error?, h]
  rfl

theorem error?_append_of_failure {p : List (Step σ ν η)} {s : σ} {f : Failure σ ν η}
    (h : firstFailure? p s = some f) (q : List (Step σ ν η)) :
    error? (p ++ q) s = some f.error := by
  rw [error?, firstFailure?_append_of_failure h]
  rfl

theorem error?_append_of_none {p : List (Step σ ν η)} {s : σ} (h : firstFailure? p s = none)
    (q : List (Step σ ν η)) : error? (p ++ q) s = error? q (stateAfter p s) := by
  rw [error?, firstFailure?_append_of_none h]
  exact Option.map_map _ _ _

/-- The same call, whose failure makes another error. -/
def reblame {θ : Type} (f : η → θ) (st : Step σ ν η) : Step σ ν θ :=
  ⟨st.call, st.body, fun cause => f (st.blame cause)⟩

theorem error?_reblame {θ : Type} (f : η → θ) (plan : List (Step σ ν η)) (s : σ) :
    error? (plan.map (reblame f)) s = (error? plan s).map f := by
  induction plan generalizing s with
  | nil => rfl
  | cons st plan ih =>
    rw [List.map_cons]
    cases hr : st.result s with
    | error e =>
      have hr' : (reblame f st).result s = .error e := hr
      rw [error?_cons_error hr, error?_cons_error hr']
      rfl
    | ok u =>
      have hr' : (reblame f st).result s = .ok () := hr
      rw [error?_cons_ok hr, error?_cons_ok hr']
      exact ih _

theorem made_reblame {θ : Type} (f : η → θ) (plan : List (Step σ ν η)) (s : σ) :
    made (plan.map (reblame f)) s = (made plan s).map (reblame f) := by
  induction plan generalizing s with
  | nil => rfl
  | cons st plan ih =>
    rw [List.map_cons]
    cases hr : st.result s with
    | error e =>
      have hr' : (reblame f st).result s = .error e := hr
      rw [made_cons_error hr, made_cons_error hr']
      rfl
    | ok u =>
      have hr' : (reblame f st).result s = .ok () := hr
      rw [made_cons_ok hr, made_cons_ok hr', List.map_cons]
      exact congrArg _ (ih _)

end Step

/-! ## Acts that perform a plan -/

/-- Run from a state, the act gives a value, makes the calls of the plan and leaves the state that
they leave. -/
structure Performs {α : Type} (m : Act σ (Event ν) α) (s : σ) (a : α)
    (plan : List (Step σ ν η)) : Prop where
  value : (m s).value = a
  state : (m s).state = Step.stateAfter plan s
  calls : calls (m s).trace = plan.map Step.call

theorem calls_append (p q : List (Event ν)) : calls (p ++ q) = calls p ++ calls q :=
  List.filterMap_append

theorem calls_map_note (notes : List (Note ν)) : calls (notes.map Event.note) = [] := by
  rw [calls, List.filterMap_map]
  exact List.filterMap_eq_nil_iff.2 fun _ _ => rfl

namespace Performs

variable {α β : Type}

theorem pure (a : α) (s : σ) :
    Performs (Pure.pure a : Act σ (Event ν) α) s a ([] : List (Step σ ν η)) :=
  ⟨rfl, rfl, rfl⟩

theorem log (level : Log.Level) (text : String) (s : σ) :
    Performs (Act.log level text : Act σ (Event ν) Unit) s () ([] : List (Step σ ν η)) :=
  ⟨rfl, rfl, rfl⟩

theorem get (s : σ) : Performs (Act.get : Act σ (Event ν) σ) s s ([] : List (Step σ ν η)) :=
  ⟨rfl, rfl, rfl⟩

theorem bind {m : Act σ (Event ν) α} {f : α → Act σ (Event ν) β} {s : σ} {a : α} {b : β}
    {p q : List (Step σ ν η)} (hm : Performs m s a p)
    (hf : Performs (f a) (Step.stateAfter p s) b q) : Performs (m >>= f) s b (p ++ q) := by
  obtain ⟨hv, hs, hc⟩ := hm
  refine ⟨?_, ?_, ?_⟩
  · rw [Act.run_bind]
    simp only [hv, hs]
    exact hf.value
  · rw [Act.run_bind, Step.stateAfter_append]
    simp only [hv, hs]
    exact hf.state
  · rw [Act.run_bind, List.map_append]
    simp only [hv, hs]
    rw [calls_append, hc, hf.calls]

/-- What comes first and makes no calls. -/
theorem quiet_bind {m : Act σ (Event ν) α} {f : α → Act σ (Event ν) β} {s : σ} {a : α} {b : β}
    {q : List (Step σ ν η)} (hm : Performs m s a ([] : List (Step σ ν η)))
    (hf : Performs (f a) s b q) : Performs (m >>= f) s b q :=
  hm.bind hf

/-- What comes last and makes no calls. -/
theorem bind_quiet {m : Act σ (Event ν) α} {f : α → Act σ (Event ν) β} {s : σ} {a : α} {b : β}
    {p : List (Step σ ν η)} (hm : Performs m s a p)
    (hf : Performs (f a) (Step.stateAfter p s) b ([] : List (Step σ ν η))) :
    Performs (m >>= f) s b p := by
  have h := hm.bind hf
  rwa [List.append_nil] at h

theorem perform (c : Call) (body : Act σ (Note ν) Outcome) (blame : HookError → η) (s : σ) :
    Performs (Act.perform c body) s (body s).value.result [(⟨c, body, blame⟩ : Step σ ν η)] where
  value := rfl
  state := rfl
  calls := by
    show PluginHost.calls ([.call c] ++ ([.note (.log _)] ++ ((body s).trace.map .note ++ []))) = [c]
    rw [calls_append, calls_append, calls_append, calls_map_note]
    rfl

/-- What is true of all calls of a plan is true of all calls that are made. -/
theorem forall_calls {m : Act σ (Event ν) α} {s : σ} {a : α} {plan : List (Step σ ν η)}
    (hm : Performs m s a plan) {P : Call → Prop} (h : ∀ st ∈ plan, P st.call) :
    ∀ c ∈ PluginHost.calls (m s).trace, P c := by
  intro c hc
  rw [hm.calls] at hc
  obtain ⟨st, hst, rfl⟩ := List.mem_map.1 hc
  exact h st hst

/-- A fan-out that stops at the first failure makes the calls of its plan up to there. -/
theorem untilFailure {body : α → Act σ (Event ν) (Except η Unit)} {step : α → Step σ ν η}
    {as : List α} (h : ∀ a ∈ as, ∀ s,
      Performs (body a) s (((step a).result s).mapError (step a).blame) [step a]) (s : σ) :
    Performs (Dispatcher.untilFailure body as) s (Step.verdict () (Step.error? (as.map step) s))
      (Step.made (as.map step) s) := by
  induction as generalizing s with
  | nil => exact pure _ _
  | cons a as ih =>
    have ha := h a List.mem_cons_self s
    rw [List.map_cons, Dispatcher.untilFailure]
    cases hr : (step a).result s with
    | error e =>
      rw [hr] at ha
      rw [Step.error?_cons_error hr, Step.made_cons_error hr]
      exact ha.bind_quiet (pure _ _)
    | ok u =>
      rw [hr] at ha
      rw [Step.error?_cons_ok hr, Step.made_cons_ok hr]
      exact ha.bind (ih (fun a' ha' => h a' (List.mem_cons_of_mem _ ha')) _)

/-- What only looks at how a plan ended. -/
theorem settle {m : Act σ (Event ν) α} {k : α → Act σ (Event ν) β} {v : Option η → α}
    {w : Option η → β} {s : σ} {plan : List (Step σ ν η)}
    (hm : Performs m s (v (Step.error? plan s)) (Step.made plan s))
    (hk : ∀ o s, Performs (k (v o)) s (w o) ([] : List (Step σ ν η))) :
    Performs (m >>= k) s (w (Step.error? plan s)) (Step.made plan s) :=
  hm.bind_quiet (hk _ _)

/-- One plan after another: the second is for when the first goes well. -/
theorem follow {m : Act σ (Event ν) α} {k : α → Act σ (Event ν) β} {v : Option η → α}
    {w : Option η → β} {s : σ} {p q : List (Step σ ν η)}
    (hm : Performs m s (v (Step.error? p s)) (Step.made p s))
    (hbad : ∀ e s, Performs (k (v (some e))) s (w (some e)) ([] : List (Step σ ν η)))
    (hgood : ∀ s, Performs (k (v none)) s (w (Step.error? q s)) (Step.made q s)) :
    Performs (m >>= k) s (w (Step.error? (p ++ q) s)) (Step.made (p ++ q) s) := by
  cases hf : Step.firstFailure? p s with
  | some f =>
    rw [Step.error?_of_failure hf] at hm
    rw [Step.error?_append_of_failure hf, Step.made_append_of_failure hf]
    exact hm.bind_quiet (hbad _ _)
  | none =>
    rw [Step.error?_of_none hf, Step.made_of_none hf] at hm
    rw [Step.error?_append_of_none hf, Step.made_append_of_none hf]
    exact hm.bind (hgood _)

/-- What calls lead to does not depend on the errors that their failures make. -/
theorem reblame {θ : Type} {m : Act σ (Event ν) α} {s : σ} {a : α} {plan : List (Step σ ν η)}
    (hm : Performs m s a plan) (f : η → θ) : Performs m s a (plan.map (Step.reblame f)) := by
  refine ⟨hm.value, hm.state.trans ?_, hm.calls.trans ?_⟩
  · rw [Step.stateAfter, Step.stateAfter, List.foldl_map]
    rfl
  · rw [List.map_map]
    rfl

/-- A plan up to its first failure, whose error is made into another. -/
theorem mapError {θ : Type} {m : Act σ (Event ν) (Except η α)} {s : σ} {a : α}
    {plan : List (Step σ ν η)}
    (hm : Performs m s (Step.verdict a (Step.error? plan s)) (Step.made plan s)) (f : η → θ) :
    let plan := plan.map (Step.reblame f)
    Performs (do return (← m).mapError f) s (Step.verdict a (Step.error? plan s))
      (Step.made plan s) := by
  intro plan
  rw [Step.error?_reblame, Step.made_reblame]
  refine (hm.reblame f).bind_quiet ?_
  cases Step.error? _ s <;> exact pure _ _

/-- A fan-out that only counts failures makes all calls of its plan. -/
theorem countFailures {ε : Type} {body : α → Act σ (Event ν) (Except ε Unit)}
    {steps : α → List (Step σ ν η)} {as : List α}
    (h : ∀ a ∈ as, ∀ s, ∃ r, Performs (body a) s r (steps a)) (s : σ) :
    ∃ n, Performs (Dispatcher.countFailures body as) s n (as.flatMap steps) := by
  induction as generalizing s with
  | nil => exact ⟨0, pure _ _⟩
  | cons a as ih =>
    obtain ⟨r, ha⟩ := h a List.mem_cons_self s
    obtain ⟨n, hn⟩ := ih (fun a' ha' => h a' (List.mem_cons_of_mem _ ha'))
      (Step.stateAfter (steps a) s)
    rw [List.flatMap_cons, Dispatcher.countFailures]
    cases r with
    | error e =>
      exact ⟨n + 1, ha.bind (hn.bind_quiet (pure _ _))⟩
    | ok u => exact ⟨n, ha.bind hn⟩

end Performs

end PluginHost
