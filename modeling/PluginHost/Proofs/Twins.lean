import Mathlib.Data.List.Forall2
import PluginHost.Proofs.Plan

/-!
# Twin acts

Two acts are twins if, from every state, they leave the same state by the same calls and give values
that stand in a relation.  What they log does not matter.  Hooks that come out alike, each well or
each with a failure, are called by twins; and what looks at a result only to see whether it is a
failure makes twins of twins.

    ComesOut E body body' → perform c body and perform c body' are twins                    (perform)
    twins, each followed by twins for all values in the relation, are twins  (bind, bind_result)
    twins for each pair of items make twins of the two fan-outs        (untilFailure, countFailures)
-/

namespace PluginHost

variable {σ ν α α' β β' ε ε' : Type}

/-! ## Results -/

/-- Two values that are alike, or two errors that are. -/
inductive Likewise (E : ε → ε' → Prop) (A : α → α' → Prop) : Except ε α → Except ε' α' → Prop where
  | ok {a : α} {a' : α'} : A a a' → Likewise E A (.ok a) (.ok a')
  | error {e : ε} {e' : ε'} : E e e' → Likewise E A (.error e) (.error e')

/-- Two pairs that are alike in both parts. -/
structure Both (A : α → α' → Prop) (B : β → β' → Prop) (p : α × β) (q : α' × β') : Prop where
  fst : A p.1 q.1
  snd : B p.2 q.2

namespace Likewise

variable {E : ε → ε' → Prop} {A : α → α' → Prop} {r : Except ε α} {r' : Except ε' α'}

theorem refl {E : ε → ε → Prop} {A : α → α → Prop} (hE : ∀ e, E e e) (hA : ∀ a, A a a)
    (r : Except ε α) : Likewise E A r r := by
  cases r with
  | ok a => exact .ok (hA a)
  | error e => exact .error (hE e)

theorem eq {r r' : Except ε α} (h : Likewise Eq Eq r r') : r = r' := by
  cases h with
  | ok ha => rw [ha]
  | error he => rw [he]

theorem map {B : β → β' → Prop} {f : α → β} {g : α' → β'} (h : Likewise E A r r')
    (hf : ∀ a a', A a a' → B (f a) (g a')) : Likewise E B (r.map f) (r'.map g) := by
  cases h with
  | ok h => exact .ok (hf _ _ h)
  | error h => exact .error h

theorem mapError {η η' : Type} {F : η → η' → Prop} {f : ε → η} {g : ε' → η'}
    (h : Likewise E A r r') (hf : ∀ e e', E e e' → F (f e) (g e')) :
    Likewise F A (r.mapError f) (r'.mapError g) := by
  cases h with
  | ok h => exact .ok h
  | error h => exact .error (hf _ _ h)

end Likewise

/-! ## Acts -/

/-- From every state, two bodies of hooks leave the same state, and both go well or both fail. -/
def ComesOut (E : HookError → HookError → Prop) (m m' : Act σ (Note ν) Outcome) : Prop :=
  ∀ s, (m s).state = (m' s).state ∧ Likewise E Eq (m s).value.result (m' s).value.result

/-- From every state, two acts leave the same state by the same calls, and give values that are
alike. -/
structure Twins (A : α → α' → Prop) (m : Act σ (Event ν) α) (m' : Act σ (Event ν) α') : Prop where
  value : ∀ s, A (m s).value (m' s).value
  state : ∀ s, (m s).state = (m' s).state
  calls : ∀ s, calls (m s).trace = calls (m' s).trace

namespace Twins

variable {A : α → α' → Prop} {B : β → β' → Prop} {E : HookError → HookError → Prop}

theorem pure {a : α} {a' : α'} (h : A a a') :
    Twins A (Pure.pure a : Act σ (Event ν) α) (Pure.pure a') :=
  ⟨fun _ => h, fun _ => rfl, fun _ => rfl⟩

/-- Every act is its own twin. -/
theorem refl (m : Act σ (Event ν) α) : Twins Eq m m := ⟨fun _ => rfl, fun _ => rfl, fun _ => rfl⟩

/-- Whatever two acts log, they are twins. -/
theorem log (level level' : Log.Level) (text text' : String) :
    Twins Eq (Act.log level text : Act σ (Event ν) Unit) (Act.log level' text') :=
  ⟨fun _ => rfl, fun _ => rfl, fun _ => rfl⟩

theorem bind {m : Act σ (Event ν) α} {m' : Act σ (Event ν) α'} {f : α → Act σ (Event ν) β}
    {f' : α' → Act σ (Event ν) β'} (hm : Twins A m m')
    (hf : ∀ a a', A a a' → Twins B (f a) (f' a')) : Twins B (m >>= f) (m' >>= f') where
  value s := by
    rw [Act.run_bind, Act.run_bind, hm.state]
    exact (hf _ _ (hm.value s)).value _
  state s := by
    rw [Act.run_bind, Act.run_bind, hm.state]
    exact (hf _ _ (hm.value s)).state _
  calls s := by
    rw [Act.run_bind, Act.run_bind, calls_append, calls_append, hm.calls, hm.state]
    exact congrArg _ ((hf _ _ (hm.value s)).calls _)

/-- What follows a text that is logged. -/
theorem log_bind {level level' : Log.Level} {text text' : String} {f : Unit → Act σ (Event ν) β}
    {f' : Unit → Act σ (Event ν) β'} (hf : Twins B (f ()) (f' ())) :
    Twins B (Act.log level text >>= f) (Act.log level' text' >>= f') :=
  (log level level' text text').bind fun _ _ _ => hf

/-- What follows a result: it goes on after a value, and differently after an error. -/
theorem bind_result {γ γ' : Type} {C : γ → γ' → Prop} {F : ε → ε' → Prop}
    {m : Act σ (Event ν) (Except ε α)} {m' : Act σ (Event ν) (Except ε' α')}
    {f : Except ε α → Act σ (Event ν) γ} {f' : Except ε' α' → Act σ (Event ν) γ'}
    (hm : Twins (Likewise F A) m m')
    (herror : ∀ e e', F e e' → Twins C (f (.error e)) (f' (.error e')))
    (hok : ∀ a a', A a a' → Twins C (f (.ok a)) (f' (.ok a'))) : Twins C (m >>= f) (m' >>= f') := by
  refine hm.bind fun r r' hr => ?_
  cases hr with
  | ok ha => exact hok _ _ ha
  | error he => exact herror _ _ he

/-- What follows a result and something else. -/
theorem bind_pair {γ γ' : Type} {C : γ → γ' → Prop} {F : ε → ε' → Prop}
    {m : Act σ (Event ν) (Except ε α × β)} {m' : Act σ (Event ν) (Except ε' α' × β')}
    {f : Except ε α × β → Act σ (Event ν) γ} {f' : Except ε' α' × β' → Act σ (Event ν) γ'}
    (hm : Twins (Both (Likewise F A) B) m m')
    (herror : ∀ e e' b b', F e e' → B b b' → Twins C (f (.error e, b)) (f' (.error e', b')))
    (hok : ∀ a a' b b', A a a' → B b b' → Twins C (f (.ok a, b)) (f' (.ok a', b'))) :
    Twins C (m >>= f) (m' >>= f') := by
  refine hm.bind fun x x' hx => ?_
  obtain ⟨r, b⟩ := x
  obtain ⟨r', b'⟩ := x'
  obtain ⟨hr, hb⟩ := hx
  cases hr with
  | ok ha => exact hok _ _ _ _ ha hb
  | error he => exact herror _ _ _ _ he hb

theorem perform (c : Call) {body body' : Act σ (Note ν) Outcome} (h : ComesOut E body body') :
    Twins (Likewise E Eq) (Act.perform c body) (Act.perform c body') where
  value s := (h s).2
  state s := (h s).1
  calls s := by
    rw [(Performs.perform c body id s).calls, (Performs.perform c body' id s).calls]
    rfl

/-! ## Fan-outs -/

variable {F : ε → ε' → Prop} {as : List α} {as' : List α'}

theorem untilFailure {body : α → Act σ (Event ν) (Except ε Unit)}
    {body' : α' → Act σ (Event ν) (Except ε' Unit)}
    (h : List.Forall₂ (fun a a' => Twins (Likewise F Eq) (body a) (body' a')) as as') :
    Twins (Likewise F Eq) (Dispatcher.untilFailure body as)
      (Dispatcher.untilFailure body' as') := by
  induction h with
  | nil => exact pure (.ok rfl)
  | cons ha _ ih =>
    unfold Dispatcher.untilFailure
    exact ha.bind_result (fun _ _ he => pure (.error he)) fun _ _ _ => ih

theorem countFailures {body : α → Act σ (Event ν) (Except ε Unit)}
    {body' : α' → Act σ (Event ν) (Except ε' Unit)}
    (h : List.Forall₂ (fun a a' => Twins (Likewise F Eq) (body a) (body' a')) as as') :
    Twins Eq (Dispatcher.countFailures body as) (Dispatcher.countFailures body' as') := by
  induction h with
  | nil => exact pure rfl
  | cons ha _ ih =>
    unfold Dispatcher.countFailures
    refine ha.bind_result (fun _ _ _ => ?_) fun _ _ _ => ih
    exact ih.bind fun n n' hn => pure (hn ▸ rfl)

end Twins

end PluginHost
