import PluginHost.Proofs.Dependency.Recast
import PluginHost.Proofs.Dispatcher.Sequence

/-!
# Inverse transactions

The inverse of a transaction leads back from its target to its source, with the inverse of each of
its changes.  It asks for the same calls, each with the inverse operation, and what a call of it sees
is what undoing the call of the transaction sees.  Where a transaction only adds, its inverse only
deletes, and makes its committing calls in the opposite order.

    t.commitVector (inverse changes) = (t.commitVector changes).map inverse     (commitVector_inverse)
    the view reversed is the view of the inverse, but for the changes listed  (reversed_ofInvocation)
    d.order (tx.inverse id) = (d.order tx).reverse.map inverse, if tx only adds        (order_inverse)
    all three, for a whole commit                                    (inverse_mirrors_transaction)
-/

namespace PluginHost

/-! ## Inverses -/

/-- The change that undoes a change. -/
def Change.inverse (c : Change) : Change := ⟨c.op.invert, c.key, c.target, c.source⟩

/-- A new transaction that undoes a transaction. -/
def Transaction.inverse (tx : Transaction) (id : Nat) : Transaction :=
  .fresh id tx.target tx.source (tx.changes.map Change.inverse)

/-- The same call with the inverse operation. -/
def Invocation.inverse {γ : Type} (i : Invocation γ) : Invocation γ :=
  ⟨i.dependency, i.op.invert, i.changes⟩

/-- The changes of a transaction that a call covers. -/
def Invocation.covered {γ : Type} (i : Invocation γ) (tx : Transaction) : List Change :=
  i.changes.filterMap fun pos => tx.changes[pos]?

/-- Inverse operations and changes, with the same callbacks. -/
def Recast.inverse {γ : Type} : Recast γ γ where
  callback := id
  op := Op.invert
  change := Change.inverse
  op_merge := Op.merge_invert
  op_change _ := rfl
  key_change _ := rfl

/-! ## Vectors -/

namespace Table

variable {γ : Type}

/-- The inverse changes ask for the same calls, with the inverse operations. -/
theorem commitVector_inverse (t : Table γ) (changes : List Change) (validate : Bool) :
    t.commitVector (changes.map Change.inverse) validate
      = (t.commitVector changes validate).map Invocation.inverse := by
  have h := Recast.inverse.commitVector_table t changes validate
  have ht : Recast.inverse.table t = t := by
    show (⟨t.entries.map id, t.index, t.nextId⟩ : Table γ) = t
    rw [List.map_id]
  rwa [ht] at h

variable {t : Table γ} {validate : Bool} {P : Op → Prop}

/-- What holds of all operations of changes, and of what sums up two of which it holds, holds of the
operations of all calls. -/
theorem op_commitVector (hP : ∀ a b, P a → P b → P (a.merge b)) {changes : List Change}
    (hc : ∀ c ∈ changes, P c.op) : ∀ i ∈ t.commitVector changes validate, P i.op := by
  -- along the pass, through changes, roots and entries
  let good (x : Draft γ) : Prop := ∀ i ∈ x.calls, P i.op
  have hentry : ∀ (c : Change) pos root x e, P c.op → good x →
      good (t.addEntry validate c pos root x e) := by
    intro c pos root x e hop hx
    have hpush : ∀ d : Dependency γ, ∀ i ∈ x.calls ++ [⟨d, c.op, [pos]⟩], P i.op := by
      intro d i hi
      rcases List.mem_append.1 hi with hi | hi
      · exact hx i hi
      · rw [List.mem_singleton.1 hi]
        exact hop
    unfold addEntry
    cases t.entries[e]? with
    | none => exact hx
    | some d =>
      simp only
      split
      · exact hx
      split
      · unfold Draft.cover
        cases x.slot? e with
        | none => exact hpush d
        | some slot =>
          intro i hi
          obtain ⟨n, hn⟩ := List.getElem?_of_mem hi
          simp only [List.getElem?_modify] at hn
          obtain ⟨j, hj, rfl⟩ := Option.map_eq_some_iff.1 hn
          have hjop := hx j (List.mem_of_getElem? hj)
          split
          · exact hP _ _ hjop hop
          · exact hjop
      · split
        · exact hpush d
        · exact hx
  have hdraft : good (changes.zipIdx.foldl (t.addChange validate) .empty) := by
    refine List.foldlRecOn changes.zipIdx _ (by nofun) fun x hx c hmem => ?_
    have hop := hc c.1 (List.fst_mem_of_mem_zipIdx hmem)
    refine List.foldlRecOn (Key.ancestors c.1.key) _ hx fun x hx root _ => ?_
    exact List.foldlRecOn (t.index.positions root) _ hx fun x hx e _ => hentry c.1 c.2 root x e hop hx
  intro i hi
  exact hdraft i ((List.mergeSort_perm _ _).mem_iff.1 hi)

end Table

/-! ## Views -/

namespace ChangeView

variable {γ : Type} (tx : Transaction) (i : Invocation γ) (id : Nat)

theorem covered_inverse :
    i.inverse.covered (tx.inverse id) = (i.covered tx).map Change.inverse := by
  unfold Invocation.covered
  rw [List.map_filterMap]
  congr 1
  funext pos
  exact List.getElem?_map

/-- Undoing a call shows what the call of the inverse transaction shows, but lists the changes as
they were. -/
theorem reversed_ofInvocation :
    (ofInvocation tx i).reversed
      = { ofInvocation (tx.inverse id) i.inverse with changes := i.covered tx } := by
  let d := i.dependency
  let own := (i.covered tx).find? fun c => c.key = d.key
  let own' := (i.inverse.covered (tx.inverse id)).find? fun c => c.key = d.key
  -- the first change to the own key is the inverse of the first such change
  have hown : own' = own.map Change.inverse := by
    simp only [own', covered_inverse, List.find?_map]
    rfl
  show (⟨tx.target, tx.source,
      if i.op = .delete then none else some d.key, if i.op = .add then none else some d.key,
      if i.op = .delete then none else own.map Change.target,
      if i.op = .add then none else own.map Change.source, d.arg, i.covered tx⟩ : ChangeView)
    = ⟨tx.target, tx.source,
      if i.op.invert = .add then none else some d.key,
      if i.op.invert = .delete then none else some d.key,
      if i.op.invert = .add then none else own'.map Change.source,
      if i.op.invert = .delete then none else own'.map Change.target, d.arg, i.covered tx⟩
  rw [hown, Option.map_map, Option.map_map]
  cases i.op <;> rfl

end ChangeView

/-! ## Committing calls -/

/-- The call of a commit vector, as the trace shows it. -/
def Call.ofInvocation {γ : Type} (tx : Transaction) (i : Invocation γ) : Call :=
  .callback i.dependency.id i.dependency.plugin i.dependency.kind i.dependency.key i.op
    (.ofInvocation tx i)

def Call.isCommitting : Call → Bool
  | .callback _ _ kind _ _ _ => !kind.validate
  | _ => false

namespace Dispatcher

variable {σ ν : Type} (d : Dispatcher σ ν) (cfg : Config) (tx : Transaction)

/-- The committing calls that were made. -/
def committing (trace : List (Event ν)) : List Call := (calls trace).filter Call.isCommitting

theorem isCommitting_phaseSteps {ph : Phase} {st : Step σ ν TransactionError}
    (h : st ∈ d.phaseSteps cfg tx ph) : st.call.isCommitting = false := by
  obtain ⟨p, -, rfl⟩ := List.mem_map.1 h
  rfl

theorem isCommitting_checks {st : Step σ ν TransactionError} (h : st ∈ d.checks cfg tx) :
    st.call.isCommitting = false := by
  rcases List.mem_append.1 h with h | h
  · exact d.isCommitting_phaseSteps cfg _ h
  rcases List.mem_append.1 h with h | h
  · obtain ⟨i, hi, rfl⟩ := List.mem_map.1 h
    obtain ⟨-, hk⟩ := Table.mem_commitVector hi
    simp [invokeStep, callbackStep, Call.isCommitting, hk]
  · exact d.isCommitting_phaseSteps cfg _ h

theorem isCommitting_commits {st : Step σ ν TransactionError} (h : st ∈ d.commits cfg tx) :
    st.call.isCommitting = true := by
  obtain ⟨i, hi, rfl⟩ := List.mem_map.1 h
  obtain ⟨-, hk⟩ := mem_order hi
  simp [invokeStep, callbackStep, Call.isCommitting, hk]

variable {d cfg tx} {s : σ} {r : Summary}

/-- A commit goes well only if the transaction is new and all calls of its sequence go well. -/
theorem performs_commit_of_ok (h : (d.commit cfg tx s).value = .ok r) :
    Performs (d.commit cfg tx) s (.ok (d.report tx)) (d.sequence cfg tx) := by
  by_cases hi : tx.state = .idle
  · cases hf : Step.firstFailure? (d.sequence cfg tx) s with
    | none => exact d.performs_commit_of_goesWell cfg hi hf
    | some f =>
      rw [(d.performs_commit_of_failure cfg hi hf).value] at h
      cases h
  · rw [(d.performs_commit_of_not_idle cfg hi (s := s)).value] at h
    cases h

/-- A commit that goes well makes its committing calls in order. -/
theorem committing_commit (h : (d.commit cfg tx s).value = .ok r) :
    committing (d.commit cfg tx s).trace = (d.order tx).map (Call.ofInvocation tx) := by
  have hnone : ∀ plan : List (Step σ ν TransactionError),
      (∀ st ∈ plan, st.call.isCommitting = false) →
        (plan.map Step.call).filter Call.isCommitting = [] := by
    intro plan hplan
    rw [List.filter_eq_nil_iff]
    intro c hc
    obtain ⟨st, hst, rfl⟩ := List.mem_map.1 hc
    rw [hplan st hst]
    decide
  have hall : ((d.commits cfg (tx.within .completed)).map Step.call).filter Call.isCommitting
      = (d.order tx).map (Call.ofInvocation tx) := by
    rw [List.filter_eq_self.2, commits, List.map_map]
    · rfl
    · intro c hc
      obtain ⟨st, hst, rfl⟩ := List.mem_map.1 hc
      exact d.isCommitting_commits cfg _ hst
  rw [committing, (performs_commit_of_ok h).calls, sequence, List.map_append, List.map_append,
    List.filter_append, List.filter_append, hall,
    hnone _ fun st hst => d.isCommitting_checks cfg tx hst,
    hnone (d.closing cfg tx) fun st hst => d.isCommitting_phaseSteps cfg _ hst, List.nil_append,
    List.append_nil]

/-! ## Orders -/

/-- A transaction that only adds asks for additions only. -/
theorem op_of_adds (d : Dispatcher σ ν) (h : ∀ c ∈ tx.changes, c.op = .add) :
    ∀ i ∈ d.table.commitVector tx.changes false, i.op = .add :=
  Table.op_commitVector (P := (· = .add)) (by rintro a b rfl rfl; rfl) h

/-- A transaction that only adds makes its committing calls in the order of the vector, and its
inverse makes them in the opposite order. -/
theorem order_inverse (d : Dispatcher σ ν) (id : Nat) (h : ∀ c ∈ tx.changes, c.op = .add) :
    d.order tx = d.table.commitVector tx.changes false ∧
    d.order (tx.inverse id)
      = (d.table.commitVector tx.changes false).reverse.map Invocation.inverse := by
  have hop := d.op_of_adds h
  have hvector : d.table.commitVector (tx.inverse id).changes false
      = (d.table.commitVector tx.changes false).map Invocation.inverse :=
    d.table.commitVector_inverse tx.changes false
  constructor
  · simp only [order]
    rw [List.filter_eq_nil_iff.2, List.filter_eq_self.2, List.reverse_nil, List.nil_append]
    · intro i hi
      simp [hop i hi]
    · intro i hi
      simp [hop i hi]
  · simp only [order, hvector]
    rw [List.filter_eq_self.2, List.filter_eq_nil_iff.2, List.append_nil, List.map_reverse]
    · intro j hj
      obtain ⟨i, hi, rfl⟩ := List.mem_map.1 hj
      simp [Invocation.inverse, hop i hi, Op.invert]
    · intro j hj
      obtain ⟨i, hi, rfl⟩ := List.mem_map.1 hj
      simp [Invocation.inverse, hop i hi, Op.invert]

/-- The calls of the inverse of a transaction are those of the transaction with the inverse
operations, and see what undoing them shows.  Where the transaction only adds, the committing calls
of the two are mirror images, each by the same dependency and on the same changes. -/
theorem inverse_mirrors_transaction (d : Dispatcher σ ν) (cfg : Config) (tx : Transaction)
    (id : Nat) :
    (∀ validate, d.table.commitVector (tx.inverse id).changes validate
      = (d.table.commitVector tx.changes validate).map Invocation.inverse) ∧
    (∀ i : Invocation (Callback σ ν),
      (ChangeView.ofInvocation tx i).reversed
          = { ChangeView.ofInvocation (tx.inverse id) i.inverse with changes := i.covered tx } ∧
        i.inverse.covered (tx.inverse id) = (i.covered tx).map Change.inverse) ∧
    ((∀ c ∈ tx.changes, c.op = .add) → ∀ s s' r r',
      (d.commit cfg tx s).value = .ok r → (d.commit cfg (tx.inverse id) s').value = .ok r' →
      let touched := (d.table.commitVector tx.changes false).map fun i => (i.dependency, i.changes)
      committing (d.commit cfg tx s).trace
          = touched.map (fun t => .ofInvocation tx ⟨t.1, .add, t.2⟩) ∧
        committing (d.commit cfg (tx.inverse id) s').trace
          = touched.reverse.map fun t => .ofInvocation (tx.inverse id) ⟨t.1, .delete, t.2⟩) := by
  refine ⟨d.table.commitVector_inverse tx.changes, fun i =>
    ⟨ChangeView.reversed_ofInvocation tx i id, ChangeView.covered_inverse tx i id⟩, ?_⟩
  intro hadd s s' r r' hr hr' touched
  have hop := d.op_of_adds hadd
  obtain ⟨horder, hmirror⟩ := order_inverse d id hadd
  constructor
  · rw [committing_commit hr, horder, List.map_map]
    refine List.map_congr_left fun i hi => ?_
    rw [Function.comp_apply, ← hop i hi]
  · rw [committing_commit hr', hmirror, ← List.map_reverse, List.map_map, List.map_map]
    refine List.map_congr_left fun i hi => ?_
    have hdel : i.op.invert = .delete := by rw [hop i (List.mem_reverse.1 hi)]; rfl
    rw [Function.comp_apply, Function.comp_apply, Invocation.inverse, hdel]

/-! ## A pile -/

/-- A pile of the keys of changes: adding puts them on top, deleting takes them from there. -/
def pile : Callback (List (List String)) Unit := fun _ op view s =>
  let keys := view.changes.map Change.key
  match op, s with
  | .add, s => ⟨.done, keys :: s, []⟩
  | .delete, top :: rest =>
    if top = keys then ⟨.done, rest, []⟩ else ⟨.failed (.message "not on top"), s, []⟩
  | _, _ => ⟨.failed (.message "no such move"), s, []⟩

/-- A subtree and two keys that share a pile. -/
def piling : Dispatcher (List (List String)) Unit where
  registry := ⟨[.named "pile"], [("pile", 0)]⟩
  table :=
    ⟨[⟨0, "pile", 5, .subtree, "a", none, pile⟩, ⟨1, "pile", 7, .key, "a.b", none, pile⟩,
      ⟨2, "pile", 1, .key, "c", none, pile⟩],
      ⟨[("a", [0]), ("a.b", [1]), ("c", [2])]⟩, 3⟩
  failedInit := []

/-- Two keys of the subtree, and one beside it. -/
def stow : Transaction :=
  .fresh 1 "running" "candidate" [.added "a.b" [], .added "a.d" [], .added "c" []]

theorem inverse_mirrors_transaction_piling :
    let unload := stow.inverse 2
    let touched := (piling.table.commitVector stow.changes false).map
      fun i => (i.dependency, i.changes)
    (∀ c ∈ stow.changes, c.op = .add) ∧
    (piling.commit .standard stow []).value = .ok ⟨1, .ended, 3, 3⟩ ∧
    (piling.commit .standard unload [["a.b"], ["a.b", "a.d"], ["c"]]).value
      = .ok ⟨2, .ended, 3, 3⟩ ∧
    committing (piling.commit .standard stow []).trace
      = touched.map (fun t => .ofInvocation stow ⟨t.1, .add, t.2⟩) ∧
    committing (piling.commit .standard unload [["a.b"], ["a.b", "a.d"], ["c"]]).trace
      = touched.reverse.map fun t => .ofInvocation unload ⟨t.1, .delete, t.2⟩ := by
  intro unload touched
  have hadd : ∀ c ∈ stow.changes, c.op = .add := by decide
  have hstow : (piling.commit .standard stow []).value = .ok ⟨1, .ended, 3, 3⟩ := by cbv
  have hunload : (piling.commit .standard unload [["a.b"], ["a.b", "a.d"], ["c"]]).value
      = .ok ⟨2, .ended, 3, 3⟩ := by cbv
  exact ⟨hadd, hstow, hunload,
    (inverse_mirrors_transaction piling .standard stow 2).2.2 hadd _ _ _ _ hstow hunload⟩

end Dispatcher

end PluginHost
