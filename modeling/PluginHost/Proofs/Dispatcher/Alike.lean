import PluginHost.Dispatcher.Commit
import PluginHost.Proofs.Alike

/-!
# Dispatchers of plugins that fail alike

Dispatchers are alike if their plugins and dependencies are, and the same names are kept as failed.
Whatever is asked of two of them is done by twin acts, for a failure is only looked at to see that it
is one: it stops a fan-out, is counted, vetoes, is undone or gives up alike, of whatever kind it is.

    d.Alike d' → register, start, reset and exit are twins                (register, start, reset, exit)
    d.Alike d' → begin, complete, finish and abort are twins         (begin, complete, finish, abort)
    d.Alike d' → commit and validate are twins                                     (commit, validate)
-/

namespace PluginHost

variable {σ ν : Type} {L : Leeway}

/-- Dispatchers with like plugins and like dependencies, that keep the same names as failed. -/
structure Dispatcher.Alike (L : Leeway) (d d' : Dispatcher σ ν) : Prop where
  registry : Registry.Alike L d.registry d'.registry
  table : Table.Alike (Callback.Alike L) d.table d'.table
  failedInit : d.failedInit = d'.failedInit

namespace Dispatcher.Alike

variable {d d' : Dispatcher σ ν} {p p' : Plugin σ ν} {cfg : Config} {tx : Transaction}

theorem empty : Alike L (Dispatcher.empty : Dispatcher σ ν) .empty := ⟨.empty, .empty, rfl⟩

/-! ## Registration -/

theorem callInit {E : HookError → HookError → Prop} {R : Callback σ ν → Callback σ ν → Prop}
    {t t' : Table (Callback σ ν)} {hook hook' : InitHook σ ν Outcome} (ht : Table.Alike R t t')
    (hh : InitHook.Alike E R hook hook') (name : String) :
    Twins (Both (Likewise E Eq) (Table.Alike R)) (callInit t cfg name hook)
      (Dispatcher.callInit t' cfg name hook') where
  value s := ⟨((hh cfg name s).run ht name).2.1, ((hh cfg name s).run ht name).2.2⟩
  state s := ((hh cfg name s).run ht name).1
  calls s := by
    show calls ([.call (.init name)] ++ ([.note _] ++ (List.map Event.note _ ++ [])))
      = calls ([.call (.init name)] ++ ([.note _] ++ (List.map Event.note _ ++ [])))
    simp only [calls_append, calls_map_note]

theorem register (h : Alike L d d') (hp : Plugin.Alike L p p') :
    Twins (Both (Likewise (PluginError.Alike L) Eq) (Alike L)) (d.register cfg p)
      (d'.register cfg p') := by
  have hr := h.registry.insert hp
  unfold Dispatcher.register
  generalize d.registry.insert p = inserted at hr ⊢
  generalize d'.registry.insert p' = inserted' at hr ⊢
  cases hr with
  | error he => exact Twins.log_bind (Twins.pure ⟨.error he, h⟩)
  | ok hr =>
    have hi := hp.init
    simp only
    rw [← hp.name]
    generalize p.init = hook at hi ⊢
    generalize p'.init = hook' at hi ⊢
    cases hi with
    | none => exact Twins.pure ⟨.ok rfl, hr, h.table, h.failedInit⟩
    | some hh =>
      refine (callInit h.table hh p.name).bind_pair (fun _ _ _ _ hc ht => ?_) fun _ _ _ _ _ ht => ?_
      · refine Twins.log_bind (Twins.pure ⟨.error (.hook hc), hr, ht, ?_⟩)
        rw [h.failedInit]
      · exact Twins.pure ⟨.ok rfl, hr, ht, h.failedInit⟩

theorem registerAll (h : Alike L d d') {ps ps' : List (Plugin σ ν)}
    (hps : List.Forall₂ (Plugin.Alike L) ps ps') :
    Twins (Both (Likewise (PluginError.Alike L) Eq) (Alike L)) (d.registerAll cfg ps)
      (d'.registerAll cfg ps') := by
  induction hps generalizing d d' with
  | nil => exact Twins.pure ⟨.ok h.registry.size, h⟩
  | cons hp _ ih =>
    exact (h.register hp).bind_pair (fun _ _ _ _ he hd => Twins.pure ⟨.error he, hd⟩)
      fun _ _ _ _ _ hd => ih hd

theorem registerFor (h : Alike L d d') (plugin : String) {q q' : Request (Callback σ ν)}
    (hq : Request.Alike (Callback.Alike L) q q') :
    Twins (Both (Likewise Eq Eq) (Alike L)) (d.registerFor plugin q) (d'.registerFor plugin q') := by
  have hg := h.registry.get? plugin
  unfold Dispatcher.registerFor
  generalize d.registry.get? plugin = found at hg ⊢
  generalize d'.registry.get? plugin = found' at hg ⊢
  cases hg with
  | none => exact Twins.pure ⟨.error rfl, h⟩
  | @some p p' hp =>
    have hi := h.table.insert p.name hq
    simp only
    rw [← hp.name]
    generalize d.table.insert p.name q = inserted at hi ⊢
    generalize d'.table.insert p.name q' = inserted' at hi ⊢
    cases hi with
    | error he => exact Twins.pure ⟨.error he, h⟩
    | @ok grown grown' hgrown =>
      obtain ⟨dep, table⟩ := grown
      obtain ⟨dep', table'⟩ := grown'
      obtain ⟨hd, ht⟩ := hgrown
      have hid : dep.id = dep'.id := by cases hd; rfl
      exact Twins.log_bind (Twins.pure ⟨.ok hid, h.registry, ht, h.failedInit⟩)

theorem teardown (h : Alike L d d') : Twins (Alike L) d.teardown d'.teardown :=
  Twins.log_bind (Twins.pure ⟨.empty, h.table.clear, rfl⟩)

/-! ## The life of plugins -/

theorem fatal (hp : Plugin.Alike L p p') {kind : HookKind} {r r' : Except HookError Unit}
    (hr : Likewise (L.hook p.name kind) Eq r r') :
    Twins (Likewise (PluginError.Alike L) Eq) (fatal p kind r : Act σ (Event ν) _)
      (Dispatcher.fatal p' kind r') := by
  unfold Dispatcher.fatal
  rw [← hp.name]
  cases hr with
  | ok => exact Twins.pure (.ok rfl)
  | error hc => exact Twins.log_bind (Twins.pure (.error (.hook hc)))

theorem start (h : Alike L d d') {args : List String} (ha : L.args args) :
    Twins (Likewise (PluginError.Alike L) Eq) (d.start cfg args) (d'.start cfg args) := by
  refine Twins.untilFailure ((h.registry.withHook .start).imp fun p p' hp => ?_)
  have hs := hp.start
  rw [← hp.name]
  generalize p.start = hook at hs ⊢
  generalize p'.start = hook' at hs ⊢
  cases hs with
  | none => exact Twins.pure (.ok rfl)
  | some hh => exact (Twins.perform _ (hh cfg args ha)).bind fun r r' hr => fatal hp hr

theorem reset (h : Alike L d d') :
    Twins (Likewise (PluginError.Alike L) Eq) (d.reset cfg) (d'.reset cfg) := by
  refine Twins.untilFailure ((h.registry.withHook .reset).imp fun p p' hp => ?_)
  have hs := hp.reset
  rw [← hp.name]
  generalize p.reset = hook at hs ⊢
  generalize p'.reset = hook' at hs ⊢
  cases hs with
  | none => exact Twins.pure (.ok rfl)
  | some hh => exact (Twins.perform _ (hh cfg () trivial)).bind fun r r' hr => fatal hp hr

theorem exit (h : Alike L d d') : Twins Eq (d.exit cfg) (d'.exit cfg) := by
  refine Twins.countFailures (F := fun _ _ => True)
    ((h.registry.withHook .exit).imp fun p p' hp => ?_)
  have hs := hp.exit
  unfold exitPlugin
  rw [← hp.name, ← h.failedInit]
  generalize p.exit = hook at hs ⊢
  generalize p'.exit = hook' at hs ⊢
  cases hs with
  | none => exact Twins.pure (.ok rfl)
  | some hh =>
    simp only
    split
    · exact Twins.log_bind (Twins.pure (.ok rfl))
    · exact (Twins.perform _ (hh cfg () trivial)).bind_result
        (fun _ _ _ => Twins.log_bind (Twins.pure (.error trivial))) fun _ _ _ => Twins.pure (.ok rfl)

/-! ## Phases -/

theorem callPhase (hp : Plugin.Alike L p p') (ph : Phase) :
    Twins (Likewise (L.hook p.name (.phase ph)) Eq) (callPhase cfg tx ph p)
      (Dispatcher.callPhase cfg tx ph p') := by
  have hs := hp.phase ph
  unfold Dispatcher.callPhase
  rw [← hp.name]
  generalize p.phase ph = hook at hs ⊢
  generalize p'.phase ph = hook' at hs ⊢
  cases hs with
  | none => exact Twins.pure (.ok rfl)
  | some hh => exact Twins.perform _ (hh cfg tx trivial)

theorem runPhase (h : Alike L d d') (ph : Phase) :
    Twins (Likewise (TransactionError.Alike L) Eq) (d.runPhase cfg tx ph)
      (d'.runPhase cfg tx ph) := by
  refine Twins.untilFailure ((h.registry.withHook (.phase ph)).imp fun p p' hp => ?_)
  unfold askPhase
  rw [← hp.name]
  exact (callPhase hp ph).bind_result
    (fun _ _ hc => Twins.log_bind (Twins.pure (.error (.phaseVeto hc))))
    fun _ _ _ => Twins.pure (.ok rfl)

theorem begin (h : Alike L d d') :
    Twins (Both (Likewise (TransactionError.Alike L) Eq) Eq) (d.begin cfg tx)
      (d'.begin cfg tx) := by
  unfold Dispatcher.begin
  split
  · exact (h.runPhase .begin).bind_result (fun _ _ he => Twins.pure ⟨.error he, rfl⟩)
      fun _ _ _ => Twins.pure ⟨.ok rfl, rfl⟩
  · exact Twins.pure ⟨.error (.invalidState _ _), rfl⟩

theorem complete (h : Alike L d d') :
    Twins (Both (Likewise (TransactionError.Alike L) Eq) Eq) (d.complete cfg tx)
      (d'.complete cfg tx) := by
  unfold Dispatcher.complete
  split
  · exact (h.runPhase .complete).bind_result (fun _ _ he => Twins.pure ⟨.error he, rfl⟩)
      fun _ _ _ => Twins.pure ⟨.ok rfl, rfl⟩
  · exact Twins.pure ⟨.error (.invalidState _ _), rfl⟩

theorem finish (h : Alike L d d') :
    Twins (Both (Likewise (TransactionError.Alike L) Eq) Eq) (d.finish cfg tx)
      (d'.finish cfg tx) := by
  unfold Dispatcher.finish
  split
  · exact (h.runPhase .finish).bind_result (fun _ _ he => Twins.pure ⟨.error he, rfl⟩)
      fun _ _ _ => Twins.pure ⟨.ok rfl, rfl⟩
  · exact Twins.pure ⟨.error (.invalidState _ _), rfl⟩

theorem abort (h : Alike L d d') :
    Twins (Both (Likewise (TransactionError.Alike L) Eq) Eq) (d.abort cfg tx)
      (d'.abort cfg tx) := by
  unfold Dispatcher.abort
  split
  · refine Twins.bind (A := Eq) ?_ fun n n' hn => Twins.pure ⟨.ok hn, rfl⟩
    refine Twins.countFailures (F := fun _ _ => True)
      ((h.registry.withHook (.phase .abort)).imp fun p p' hp => ?_)
    unfold abortPlugin
    exact (callPhase hp .abort).bind_result
      (fun _ _ _ => Twins.log_bind (Twins.pure (.error trivial))) fun _ _ _ => Twins.pure (.ok rfl)
  · exact Twins.pure ⟨.error (.invalidState _ _), rfl⟩

/-! ## Committing -/

theorem callBack {dep dep' : Dependency (Callback σ ν)}
    (hd : Dependency.Alike (Callback.Alike L) dep dep') (op : Op) (view : ChangeView) :
    Twins (Likewise (TransactionError.Alike L) Eq) (callBack cfg dep op view)
      (Dispatcher.callBack cfg dep' op view) := by
  cases hd with
  | intro hc =>
    unfold Dispatcher.callBack
    refine (Twins.refl _).bind fun _ _ _ => (Twins.perform _ (hc cfg op view)).bind_result ?_ ?_
    · exact fun _ _ he => Twins.pure (.error (.callback he))
    · exact fun _ _ _ => Twins.pure (.ok rfl)

variable {i i' : Invocation (Callback σ ν)}
  {es es' as as' is is' : List (Invocation (Callback σ ν))}

/-- A call shows the same, whatever the callback is. -/
theorem view (h : Invocation.Alike (Callback.Alike L) i i') :
    ChangeView.ofInvocation tx i = ChangeView.ofInvocation tx i' := by
  cases h with
  | intro hd =>
    cases hd
    rfl

theorem invoke (h : Invocation.Alike (Callback.Alike L) i i') :
    Twins (Likewise (TransactionError.Alike L) Eq) (invoke cfg tx i)
      (Dispatcher.invoke cfg tx i') := by
  unfold Dispatcher.invoke
  rw [← view h]
  cases h with
  | intro hd => exact callBack hd _ _

theorem undo (h : Invocation.Alike (Callback.Alike L) i i') :
    Twins Eq (undo cfg tx i) (Dispatcher.undo cfg tx i') := by
  unfold Dispatcher.undo
  rw [← view h]
  cases h with
  | intro hd =>
    exact (callBack hd _ _).bind_result (fun _ _ _ => Twins.log _ _ _ _) fun _ _ _ => Twins.pure rfl

theorem undoAll (h : List.Forall₂ (Invocation.Alike (Callback.Alike L)) is is') :
    Twins Eq (undoAll cfg tx is) (Dispatcher.undoAll cfg tx is') := by
  induction h with
  | nil => exact Twins.pure rfl
  | cons hi _ ih => exact (undo hi).bind fun _ _ _ => ih

theorem revert (h : List.Forall₂ (Invocation.Alike (Callback.Alike L)) is is') :
    Twins Eq (revert cfg tx is) (Dispatcher.revert cfg tx is') :=
  undoAll (List.rel_reverse h)

theorem applyPass (he : List.Forall₂ (Invocation.Alike (Callback.Alike L)) es es')
    (ha : List.Forall₂ (Invocation.Alike (Callback.Alike L)) as as')
    (hi : List.Forall₂ (Invocation.Alike (Callback.Alike L)) is is') :
    Twins (Likewise (TransactionError.Alike L) (List.Forall₂ (Invocation.Alike (Callback.Alike L))))
      (applyPass cfg tx es as is) (Dispatcher.applyPass cfg tx es' as' is') := by
  induction hi generalizing as as' with
  | nil => exact Twins.pure (.ok ha)
  | cons hi _ ih =>
    unfold Dispatcher.applyPass
    refine (invoke hi).bind_result (fun _ _ hc => ?_) fun _ _ _ => ih (List.rel_append ha (.cons hi .nil))
    exact (revert ha).bind fun _ _ _ => (revert he).bind fun _ _ _ => Twins.pure (.error hc)

theorem applyVector (h : Alike L d d') :
    Twins (Likewise (TransactionError.Alike L) Eq) (d.applyVector cfg tx)
      (d'.applyVector cfg tx) := by
  have hv := h.table.commitVector tx.changes false
  have hop : ∀ {i i' : Invocation (Callback σ ν)}, Invocation.Alike (Callback.Alike L) i i' →
      i.op = i'.op := fun hi => by cases hi; rfl
  unfold Dispatcher.applyVector
  refine (applyPass .nil .nil (List.rel_reverse (List.rel_filter ?_ hv))).bind_result ?_ ?_
  · exact fun i i' hi => by simp [hop hi]
  · exact fun _ _ he => Twins.pure (.error he)
  · intro deleted deleted' hdeleted
    refine (applyPass hdeleted .nil (List.rel_filter ?_ hv)).bind_result ?_ ?_
    · exact fun i i' hi => by simp [hop hi]
    · exact fun _ _ he => Twins.pure (.error he)
    · exact fun _ _ _ => Twins.pure (.ok hv.length_eq)

theorem runValidation (h : Alike L d d') :
    Twins (Both (Likewise (TransactionError.Alike L) Eq) Eq) (d.runValidation cfg tx)
      (d'.runValidation cfg tx) := by
  unfold Dispatcher.runValidation
  refine h.begin.bind_pair (fun _ _ _ _ he ht => Twins.pure ⟨.error he, ht⟩) fun _ _ tx tx' _ ht => ?_
  subst ht
  have hv := h.table.commitVector tx.changes true
  refine (Twins.untilFailure (hv.imp fun i i' hi => invoke hi)).bind_result ?_ ?_
  · exact fun _ _ he => Twins.pure ⟨.error he, rfl⟩
  · intro _ _ _
    exact h.complete.bind_pair (fun _ _ _ _ he ht => Twins.pure ⟨.error he, ht⟩)
      fun _ _ _ _ _ ht => Twins.pure ⟨.ok hv.length_eq, ht⟩

theorem giveUp (h : Alike L d d') (e e' : TransactionError) :
    Twins Eq (d.giveUp cfg tx e) (d'.giveUp cfg tx e') :=
  Twins.log_bind (h.abort.bind_pair (fun _ _ _ _ _ _ => Twins.log _ _ _ _)
    fun _ _ _ _ _ _ => Twins.pure rfl)

/-- Two commits of a transaction come out alike. -/
theorem commit (h : Alike L d d') :
    Twins (Likewise (TransactionError.Alike L) Eq) (d.commit cfg tx) (d'.commit cfg tx) := by
  unfold Dispatcher.commit
  refine Twins.log_bind (h.runValidation.bind_pair (fun e e' tx tx' he ht => ?_)
    fun checks checks' tx tx' hn ht => ?_)
  · subst ht
    exact (h.giveUp e e').bind fun _ _ _ => Twins.pure (.error he)
  subst hn ht
  refine h.applyVector.bind_result (fun e e' he => ?_) fun commits commits' hn => ?_
  · exact (h.giveUp e e').bind fun _ _ _ => Twins.pure (.error he)
  subst hn
  refine h.finish.bind_pair (fun e e' tx tx' he _ => ?_) fun _ _ tx tx' _ ht => ?_
  · exact Twins.log_bind (Twins.pure (.error he))
  · subst ht
    exact Twins.log_bind (Twins.pure (.ok rfl))

/-- Two validations of a transaction come out alike. -/
theorem validate (h : Alike L d d') :
    Twins (Likewise (TransactionError.Alike L) Eq) (d.validate cfg tx) (d'.validate cfg tx) := by
  unfold Dispatcher.validate
  refine Twins.log_bind (h.runValidation.bind_pair (fun e e' tx tx' he ht => ?_)
    fun checks checks' tx tx' hn ht => ?_)
  · subst ht
    exact (h.giveUp e e').bind fun _ _ _ => Twins.pure (.error he)
  · subst hn ht
    exact Twins.log_bind (Twins.pure (.ok rfl))

/-! ## Loading -/

variable {disk disk' : Disk σ ν}

theorem load {path : Path} (hpath : Disk.LoadsAlike L disk disk' path) :
    Twins (Likewise (PluginError.Alike L) (Plugin.Alike L)) (Loader.load disk path)
      (Loader.load disk' path) := by
  unfold Loader.load
  refine (Twins.refl _).bind fun s s' hs => ?_
  subst hs
  have hl := hpath s
  generalize disk.load s path = loaded at hl ⊢
  generalize disk'.load s path = loaded' at hl ⊢
  cases hl with
  | error he =>
    subst he
    exact Twins.pure (.error (.load _ _ _))
  | ok hlib => exact Twins.log_bind (Twins.pure (.ok hlib))

theorem loadEach (h : Alike L d d') {paths : List Path}
    (hpaths : ∀ path ∈ paths, Disk.LoadsAlike L disk disk' path) :
    Twins (Both (Likewise (PluginError.Alike L) Eq) (Alike L)) (d.loadEach disk cfg paths)
      (d'.loadEach disk' cfg paths) := by
  induction paths generalizing d d' with
  | nil => exact Twins.pure ⟨.ok rfl, h⟩
  | cons path paths ih =>
    unfold Dispatcher.loadEach
    obtain ⟨hpath, hpaths⟩ := List.forall_mem_cons.1 hpaths
    refine (load hpath).bind_result (fun e e' he => ?_) fun p p' hp => ?_
    · exact Twins.log_bind (Twins.pure ⟨.error he, h⟩)
    · exact (h.register hp).bind_pair (fun _ _ _ _ he hd => Twins.pure ⟨.error he, hd⟩)
        fun _ _ _ _ _ hd => ih hd hpaths

theorem loadAll (h : Alike L d d') {paths : List Path}
    (hpaths : ∀ path ∈ paths, Disk.LoadsAlike L disk disk' path) :
    Twins (Both (Likewise (PluginError.Alike L) Eq) (Alike L)) (d.loadAll disk cfg paths)
      (d'.loadAll disk' cfg paths) := by
  unfold Dispatcher.loadAll
  exact (h.loadEach hpaths).bind_pair (fun _ _ _ _ he hd => Twins.pure ⟨.error he, hd⟩)
    fun _ _ _ _ _ hd => Twins.log_bind (Twins.pure ⟨.ok hd.registry.size, hd⟩)

end Dispatcher.Alike

end PluginHost
