import PluginHost.Proofs.Dispatcher.Phase

/-!
# The protocol of a transaction

The phases of one transaction may be asked for in any order and any number of times.  Those that are
accepted form a word of a small language; all others are refused and change nothing.

    Protocol word ↔ Fits .idle word                                             (protocol_iff)
    enterAll from a new transaction accepts a word of the protocol,
    accepts what may come next and refuses all else,
    calls no hook of begin, complete or abort twice            (accepted_phases_form_word)

`Fits` reads a word along the states of the transaction; it is what each accepted phase keeps.
-/

namespace PluginHost

/-! ## Words -/

/-- A phase that was accepted, and whether it went well. -/
structure Attempt where
  phase : Phase
  good : Bool
deriving DecidableEq, Repr

def AtMostOneAbort (w : List Attempt) : Prop := w = [] ∨ w = [⟨.abort, true⟩]

/-- The words of the protocol. -/
inductive Protocol : List Attempt → Prop where
  | untouched : Protocol []
  | notBegun {w : List Attempt} : AtMostOneAbort w → Protocol (⟨.begin, false⟩ :: w)
  | begun {w : List Attempt} : AtMostOneAbort w → Protocol (⟨.begin, true⟩ :: w)
  | notCompleted {w : List Attempt} : AtMostOneAbort w →
      Protocol (⟨.begin, true⟩ :: ⟨.complete, false⟩ :: w)
  | completed (n : Nat) {w : List Attempt} :
      w = [] ∨ w = [⟨.finish, true⟩] ∨ w = [⟨.abort, true⟩] →
      Protocol (⟨.begin, true⟩ :: ⟨.complete, true⟩ :: (List.replicate n ⟨.finish, false⟩ ++ w))

namespace Attempt

open Transaction (State)

/-- The state after an attempt. -/
def next : Attempt → State
  | ⟨.begin, true⟩ => .begun
  | ⟨.begin, false⟩ => .vetoed
  | ⟨.complete, true⟩ => .completed
  | ⟨.complete, false⟩ => .vetoed
  | ⟨.finish, true⟩ => .ended
  | ⟨.finish, false⟩ => .completed
  | ⟨.abort, _⟩ => .aborted

/-- An attempt may come in a state.  An abort always goes well. -/
def Follows (st : State) (a : Attempt) : Prop :=
  st ∈ a.phase.allowed ∧ (a.phase = .abort → a.good = true)

/-- From a state, each attempt of a word may come where it comes. -/
def Fits : State → List Attempt → Prop
  | _, [] => True
  | st, a :: w => a.Follows st ∧ Fits a.next w

def reached : State → List Attempt → State
  | st, [] => st
  | _, a :: w => reached a.next w

theorem fits_append (st : State) (w v : List Attempt) :
    Fits st (w ++ v) ↔ Fits st w ∧ Fits (reached st w) v := by
  induction w generalizing st with
  | nil => simp [Fits, reached]
  | cons a w ih => simp only [List.cons_append, Fits, reached, ih, and_assoc]

/-! ## What may come from each state -/

theorem fits_closed {st : State} (h : st = .aborted ∨ st = .ended) {w : List Attempt} :
    Fits st w ↔ w = [] := by
  cases w with
  | nil => simp [Fits]
  | cons a w =>
    obtain ⟨ph, good⟩ := a
    rcases h with rfl | rfl <;> cases ph <;> simp [Fits, Follows, Phase.allowed]

theorem fits_vetoed {w : List Attempt} : Fits .vetoed w ↔ AtMostOneAbort w := by
  cases w with
  | nil => simp [Fits, AtMostOneAbort]
  | cons a w =>
    obtain ⟨ph, good⟩ := a
    cases ph <;> cases good <;>
      simp [Fits, Follows, Phase.allowed, AtMostOneAbort, next, fits_closed]

theorem fits_completed {w : List Attempt} :
    Fits .completed w ↔ ∃ n v, w = List.replicate n ⟨.finish, false⟩ ++ v ∧
      (v = [] ∨ v = [⟨.finish, true⟩] ∨ v = [⟨.abort, true⟩]) := by
  constructor
  · intro h
    induction w with
    | nil => exact ⟨0, [], rfl, .inl rfl⟩
    | cons a w ih =>
      obtain ⟨ph, good⟩ := a
      obtain ⟨hf, hw⟩ := h
      cases ph with
      | begin => simp [Follows, Phase.allowed] at hf
      | complete => simp [Follows, Phase.allowed] at hf
      | finish =>
        cases good with
        | true =>
          rw [(fits_closed (.inr rfl)).1 hw]
          exact ⟨0, _, rfl, .inr (.inl rfl)⟩
        | false =>
          obtain ⟨n, v, rfl, hv⟩ := ih hw
          exact ⟨n + 1, v, rfl, hv⟩
      | abort =>
        obtain rfl : good = true := hf.2 rfl
        rw [(fits_closed (.inl rfl)).1 hw]
        exact ⟨0, _, rfl, .inr (.inr rfl)⟩
  · rintro ⟨n, v, rfl, hv⟩
    induction n with
    | zero => rcases hv with rfl | rfl | rfl <;> simp [Fits, Follows, Phase.allowed]
    | succ n ih => exact ⟨by simp [Follows, Phase.allowed], ih⟩

theorem fits_begun {w : List Attempt} :
    Fits .begun w ↔ AtMostOneAbort w ∨ (∃ v, w = ⟨.complete, false⟩ :: v ∧ AtMostOneAbort v) ∨
      ∃ v, w = ⟨.complete, true⟩ :: v ∧ Fits .completed v := by
  cases w with
  | nil => simp [Fits, AtMostOneAbort]
  | cons a w =>
    obtain ⟨ph, good⟩ := a
    cases ph <;> cases good <;>
      simp [Fits, Follows, Phase.allowed, AtMostOneAbort, next, fits_closed, fits_vetoed]

end Attempt

open Attempt

/-- The words of the protocol are those that fit a new transaction. -/
theorem protocol_iff (w : List Attempt) : Protocol w ↔ Fits .idle w := by
  constructor
  · intro h
    cases h with
    | untouched => trivial
    | notBegun hw => exact ⟨by simp [Follows, Phase.allowed], fits_vetoed.2 hw⟩
    | begun hw => exact ⟨by simp [Follows, Phase.allowed], fits_begun.2 (.inl hw)⟩
    | notCompleted hw =>
      exact ⟨by simp [Follows, Phase.allowed], fits_begun.2 (.inr (.inl ⟨_, rfl, hw⟩))⟩
    | completed n hw =>
      have hc := fits_completed.2 ⟨n, _, rfl, hw⟩
      exact ⟨by simp [Follows, Phase.allowed], fits_begun.2 (.inr (.inr ⟨_, rfl, hc⟩))⟩
  · intro h
    cases w with
    | nil => exact .untouched
    | cons a w =>
      obtain ⟨ph, good⟩ := a
      obtain ⟨hf, hw⟩ := h
      cases ph with
      | complete => simp [Follows, Phase.allowed] at hf
      | finish => simp [Follows, Phase.allowed] at hf
      | abort => simp [Follows, Phase.allowed] at hf
      | begin =>
        cases good with
        | false => exact .notBegun (fits_vetoed.1 hw)
        | true =>
          rcases fits_begun.1 hw with hw | ⟨v, rfl, hv⟩ | ⟨v, rfl, hv⟩
          · exact .begun hw
          · exact .notCompleted hv
          · obtain ⟨n, u, rfl, hu⟩ := fits_completed.1 hv
            exact .completed n hu

/-- What may come next is what the state allows. -/
theorem protocol_append_iff {w : List Attempt} (h : Protocol w) (ph : Phase) :
    (∃ good, Protocol (w ++ [⟨ph, good⟩])) ↔ reached .idle w ∈ ph.allowed := by
  have hw := (protocol_iff w).1 h
  simp only [protocol_iff, fits_append]
  constructor
  · rintro ⟨good, -, hf, -⟩
    exact hf.1
  · intro ha
    exact ⟨true, hw, ⟨ha, fun _ => rfl⟩, trivial⟩

/-- No phase but finish is accepted twice. -/
theorem Protocol.count_le_one {w : List Attempt} (h : Protocol w) {ph : Phase} (hph : ph ≠ .finish) :
    w.countP (fun a => a.phase = ph) ≤ 1 := by
  cases h with
  | untouched => simp
  | notBegun hw => rcases hw with rfl | rfl <;> cases ph <;> simp
  | begun hw => rcases hw with rfl | rfl <;> cases ph <;> simp
  | notCompleted hw => rcases hw with rfl | rfl <;> cases ph <;> simp
  | completed n hw =>
    have hn : (List.replicate n (⟨.finish, false⟩ : Attempt)).countP (fun a => a.phase = ph) = 0 := by
      rw [List.countP_replicate, if_neg (by simpa using hph.symm)]
    simp only [List.countP_cons, List.countP_append, hn]
    rcases hw with rfl | rfl | rfl <;> cases ph <;> simp

/-- The plugin that is called, if it is its hook of a phase. -/
def Call.asked? (ph : Phase) : Call → Option String
  | .phase plugin ph' _ => if ph' = ph then some plugin else none
  | _ => none

namespace Dispatcher

variable {σ ν : Type} (d : Dispatcher σ ν) (cfg : Config)

/-! ## Entering phases -/

def enter (tx : Transaction) :
    Phase → Act σ (Event ν) (Except TransactionError Unit × Transaction)
  | .begin => d.begin cfg tx
  | .complete => d.complete cfg tx
  | .finish => d.finish cfg tx
  | .abort => do
    let (result, tx) ← d.abort cfg tx
    return (result.map fun _ => (), tx)

/-- What was attempted, unless the phase was refused. -/
def attempt? (ph : Phase) : Except TransactionError Unit → Option Attempt
  | .ok () => some ⟨ph, true⟩
  | .error (.invalidState _ _) => none
  | .error _ => some ⟨ph, false⟩

/-- Enters phases one after another; gives those that were accepted. -/
def enterAll : Transaction → List Phase → Act σ (Event ν) (List Attempt × Transaction)
  | tx, [] => pure ([], tx)
  | tx, ph :: phs => do
    let (result, tx) ← d.enter cfg tx ph
    let (word, tx) ← enterAll tx phs
    return ((attempt? ph result).toList ++ word, tx)

/-- The plugins whose hook of a phase is called in a trace. -/
def asked (ph : Phase) (trace : List (Event ν)) : List String :=
  (calls trace).filterMap (Call.asked? ph)

/-- The plugins that have a hook for a phase, in order of registration. -/
def members (ph : Phase) : List String := (d.registry.withHook (.phase ph)).map Plugin.name

variable {d cfg} {tx : Transaction} {ph : Phase} {s : σ}

theorem enter_refused (h : tx.state ∉ ph.allowed) :
    d.enter cfg tx ph s = ⟨(.error (.invalidState ph tx.state), tx), s, []⟩ := by
  cases ph with
  | begin => simp only [enter, begin, if_neg h]; rfl
  | complete => simp only [enter, complete, if_neg h]; rfl
  | finish => simp only [enter, finish, if_neg h]; rfl
  | abort => simp only [enter, abort, if_neg h]; rfl

/-- What an accepted phase does: it calls hooks of the phase, in order, and moves on. -/
structure Enters (d : Dispatcher σ ν) (cfg : Config) (tx : Transaction) (ph : Phase) (s : σ)
    (good : Bool) (result : Except TransactionError Unit)
    (plan : List (Step σ ν TransactionError)) : Prop where
  follows : Attempt.Follows tx.state ⟨ph, good⟩
  attempt : attempt? ph result = some ⟨ph, good⟩
  performs : Performs (d.enter cfg tx ph) s (result, tx.within (Attempt.next ⟨ph, good⟩)) plan
  calls : ∃ seen, plan <+: d.phaseSteps cfg seen ph

/-- A phase that stops at the first veto. -/
theorem enters_of_ending (seen : Transaction) (h : tx.state ∈ ph.allowed) (hph : ph ≠ .abort)
    (hp : Performs (d.enter cfg tx ph) s
      (ending () (tx.within (Attempt.next ⟨ph, true⟩)) (tx.within (Attempt.next ⟨ph, false⟩))
        (Step.error? (d.phaseSteps cfg seen ph) s))
      (Step.made (d.phaseSteps cfg seen ph) s)) :
    ∃ good result plan, Enters d cfg tx ph s good result plan := by
  have hf : ∀ good, Attempt.Follows tx.state ⟨ph, good⟩ := fun good =>
    ⟨h, fun ha => absurd ha hph⟩
  cases hv : Step.firstFailure? (d.phaseSteps cfg seen ph) s with
  | none =>
    rw [Step.error?_of_none hv] at hp
    exact ⟨true, .ok (), _, hf true, rfl, hp, seen, Step.made_isPrefix _ _⟩
  | some f =>
    obtain ⟨plugin, hb⟩ := d.blame_phaseSteps cfg seen (Step.step_mem hv) f.cause
    rw [Step.error?_of_failure hv] at hp
    refine ⟨false, .error f.error, _, hf false, ?_, hp, seen, Step.made_isPrefix _ _⟩
    rw [Step.Failure.error, hb]
    rfl

theorem enters_of_allowed (d : Dispatcher σ ν) (cfg : Config) (h : tx.state ∈ ph.allowed) (s : σ) :
    ∃ good result plan, Enters d cfg tx ph s good result plan := by
  cases ph with
  | begin =>
    have hs : tx.state = .idle := by simpa [Phase.allowed] using h
    exact enters_of_ending _ h (by decide) (d.performs_begin cfg tx hs s)
  | complete => exact enters_of_ending _ h (by decide) (d.performs_complete cfg tx h s)
  | finish =>
    have hs : tx.state = .completed := by simpa [Phase.allowed] using h
    have hp := d.performs_finish cfg tx hs s
    -- a veto leaves the transaction as it is, that is completed
    have ht : tx.within (Attempt.next ⟨.finish, false⟩) = tx := by
      show tx.within .completed = tx
      rw [← hs]
      rfl
    refine enters_of_ending tx h (by decide) ?_
    rw [ht]
    exact hp
  | abort =>
    obtain ⟨n, hp⟩ := d.performs_abort cfg tx h s
    exact ⟨true, .ok (), _, ⟨h, fun _ => rfl⟩, rfl, hp.bind_quiet (Performs.pure _ _), tx,
      List.prefix_rfl⟩

/-! ## Whose hooks are called -/

theorem asked_append (ph : Phase) (p q : List (Event ν)) :
    asked ph (p ++ q) = asked ph p ++ asked ph q := by
  rw [asked, calls_append, List.filterMap_append]
  rfl

theorem asked_phaseSteps (d : Dispatcher σ ν) (cfg : Config) (seen : Transaction) (ph ph' : Phase) :
    ((d.phaseSteps cfg seen ph).map Step.call).filterMap (Call.asked? ph')
      = if ph = ph' then d.members ph' else [] := by
  have hcall : ∀ p : Plugin σ ν, Call.asked? ph' (phaseStep cfg seen ph p).call
      = if ph = ph' then some p.name else none := fun p => rfl
  rw [phaseSteps, List.map_map, List.filterMap_map]
  split
  · next he =>
    subst he
    rw [members, ← List.filterMap_eq_map]
    congr 1
    funext p
    simp [hcall]
  · next hne => exact List.filterMap_eq_nil_iff.2 fun p _ => by simp [hcall, hne]

/-- An accepted phase asks its members in order, perhaps not all, and no member of other phases. -/
theorem Enters.asked {good : Bool} {result : Except TransactionError Unit}
    {plan : List (Step σ ν TransactionError)} (h : Enters d cfg tx ph s good result plan)
    (ph' : Phase) :
    asked ph' (d.enter cfg tx ph s).trace <+: if ph = ph' then d.members ph' else [] := by
  obtain ⟨seen, hplan⟩ := h.calls
  have hpre := (hplan.map Step.call).filterMap (Call.asked? ph')
  rwa [asked_phaseSteps, ← h.performs.calls] at hpre

/-! ## Runs of phases -/

/-- What a run of phases keeps: the accepted ones fit, lead to the state that is reached, and each
asks the members of its phase once at most. -/
theorem enterAll_fits (d : Dispatcher σ ν) (cfg : Config) (tx : Transaction) (phs : List Phase)
    (s : σ) :
    let r := d.enterAll cfg tx phs s
    Fits tx.state r.value.1 ∧ r.value.2 = tx.within (reached tx.state r.value.1) ∧
    ∀ ph, ∃ rounds : List (List String),
      rounds.length = r.value.1.countP (fun a => a.phase = ph) ∧
      (∀ round ∈ rounds, round <+: d.members ph) ∧ asked ph r.trace = rounds.flatten := by
  induction phs generalizing tx s with
  | nil => exact ⟨trivial, rfl, fun ph => ⟨[], rfl, by simp, rfl⟩⟩
  | cons ph phs ih =>
    simp only [enterAll, Act.run_bind, Act.run_pure, List.append_nil]
    by_cases h : tx.state ∈ ph.allowed
    · obtain ⟨good, result, plan, he⟩ := enters_of_allowed d cfg h s
      obtain ⟨hfit, htx, hasked⟩ := ih (tx.within (Attempt.next ⟨ph, good⟩)) (d.enter cfg tx ph s).state
      simp only [he.performs.value, he.attempt, Option.toList_some, List.singleton_append]
      refine ⟨⟨he.follows, hfit⟩, htx, fun ph' => ?_⟩
      obtain ⟨rounds, hlen, hrounds, hflat⟩ := hasked ph'
      have hfirst := he.asked ph'
      rw [asked_append, hflat, List.countP_cons]
      by_cases heq : ph = ph'
      · rw [if_pos heq] at hfirst
        refine ⟨asked ph' (d.enter cfg tx ph s).trace :: rounds, ?_, ?_, rfl⟩
        · simp [hlen, heq]
        · intro round hround
          rcases List.mem_cons.1 hround with rfl | hround
          · exact hfirst
          · exact hrounds round hround
      · rw [if_neg heq, List.prefix_nil] at hfirst
        refine ⟨rounds, ?_, hrounds, ?_⟩
        · simp [hlen, heq]
        · rw [hfirst, List.nil_append]
    · simp only [enter_refused h, attempt?, Option.toList_none, List.nil_append]
      exact ih tx s

variable (d cfg)

/-- The phases that a new transaction accepts form a word of the protocol; whatever may come next is
accepted, and all else is refused without a trace; only finish may ask a plugin twice. -/
theorem accepted_phases_form_word (id : Nat) (source target : String) (changes : List Change)
    (phs : List Phase) (s : σ) :
    let run := d.enterAll cfg (.fresh id source target changes) phs s
    let word := run.value.1
    let tx := run.value.2
    Protocol word ∧
    (∀ ph,
      ((∃ good, Protocol (word ++ [⟨ph, good⟩])) →
        ∃ good, attempt? ph (d.enter cfg tx ph run.state).value.1 = some ⟨ph, good⟩) ∧
      ((¬ ∃ good, Protocol (word ++ [⟨ph, good⟩])) →
        d.enter cfg tx ph run.state
          = ⟨(.error (.invalidState ph tx.state), tx), run.state, []⟩)) ∧
    ∀ ph, ph ≠ .finish → asked ph run.trace <+: d.members ph := by
  intro run word tx
  obtain ⟨hfit, htx, hasked⟩ := d.enterAll_fits cfg (.fresh id source target changes) phs s
  have hword : Protocol word := (protocol_iff word).2 hfit
  have hstate : tx.state = reached .idle word := congrArg Transaction.state htx
  refine ⟨hword, fun ph => ?_, fun ph hph => ?_⟩
  · rw [protocol_append_iff hword, ← hstate]
    refine ⟨fun h => ?_, fun h => enter_refused h⟩
    obtain ⟨good, result, plan, he⟩ := enters_of_allowed d cfg h run.state
    rw [he.performs.value]
    exact ⟨good, he.attempt⟩
  · obtain ⟨rounds, hlen, hrounds, hflat⟩ := hasked ph
    have hone := hword.count_le_one hph
    change asked ph run.trace = rounds.flatten at hflat
    rw [hflat]
    match rounds, hlen, hrounds with
    | [], _, _ => exact List.nil_prefix
    | [round], _, hrounds =>
      rw [List.flatten_singleton]
      exact hrounds round List.mem_cons_self
    | _ :: _ :: _, hlen, _ =>
      have : 2 ≤ word.countP fun a => a.phase = ph := by
        rw [← hlen]
        simp
      omega

end Dispatcher

end PluginHost
