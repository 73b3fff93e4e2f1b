import PluginHost.Proofs.Dispatcher.Alike
import PluginHost.Proofs.Dispatcher.Session

/-!
# Sessions with plugins that fail alike

Two sessions are alike if their dispatchers are and they hold the same transactions.  Operations are
alike if they are the same, but for the plugins, libraries and callbacks that they hand over, which
are alike.  Such operations on such sessions are twins, and get answers that are alike.

    x.Alike x', o.Alike o' → x.step cfg o and x'.step cfg o' are twins                 (Alike.step)
    so are whole runs, operation by operation                                            (Alike.run)
-/

namespace PluginHost

variable {σ ν : Type}

theorem Twins.listen {α α' : Type} {A : α → α' → Prop} {m : Act σ (Event ν) α}
    {m' : Act σ (Event ν) α'} (h : Twins A m m') : Twins (Both A Eq) m.listen m'.listen where
  value s := ⟨h.value s, h.calls s⟩
  state := h.state
  calls := h.calls

/-! ## Operations and answers -/

/-- Whether an operation neither hands over anything of plugins nor gives them start arguments. -/
def Operation.isPlain : Operation σ ν → Bool
  | .register _ => false
  | .registerAll _ => false
  | .loadAll _ _ => false
  | .registerFor _ _ => false
  | .start _ => false
  | _ => true

/-- The same operation, with plugins, libraries and callbacks that are alike. -/
inductive Operation.Alike (L : Leeway) : Operation σ ν → Operation σ ν → Prop where
  | register {p p' : Plugin σ ν} : Plugin.Alike L p p' → Alike L (.register p) (.register p')
  | registerAll {ps ps' : List (Plugin σ ν)} : List.Forall₂ (Plugin.Alike L) ps ps' →
      Alike L (.registerAll ps) (.registerAll ps')
  | loadAll {disk disk' : Disk σ ν} {paths : List Path} :
      (∀ path ∈ paths, Disk.LoadsAlike L disk disk' path) →
      Alike L (.loadAll disk paths) (.loadAll disk' paths)
  | registerFor (plugin : String) {q q' : Request (Callback σ ν)} :
      Request.Alike (Callback.Alike L) q q' →
      Alike L (.registerFor plugin q) (.registerFor plugin q')
  | start {args : List String} : L.args args → Alike L (.start args) (.start args)
  | plain {o : Operation σ ν} : o.isPlain = true → Alike L o o

/-- The same find, of plugins and callbacks that are alike. -/
inductive Finding.Alike (L : Leeway) : Finding σ ν → Finding σ ν → Prop where
  | plugins {ps ps' : List (Plugin σ ν)} : List.Forall₂ (Plugin.Alike L) ps ps' →
      Alike L (.plugins ps) (.plugins ps')
  | plugin {p p' : Option (Plugin σ ν)} : Option.Rel (Plugin.Alike L) p p' →
      Alike L (.plugin p) (.plugin p')
  | dependencies {ds ds' : List (Dependency (Callback σ ν))} :
      List.Forall₂ (Dependency.Alike (Callback.Alike L)) ds ds' →
      Alike L (.dependencies ds) (.dependencies ds')
  | dependency {d d' : Option (Dependency (Callback σ ν))} :
      Option.Rel (Dependency.Alike (Callback.Alike L)) d d' →
      Alike L (.dependency d) (.dependency d')
  | vector {is is' : List (Invocation (Callback σ ν))} :
      List.Forall₂ (Invocation.Alike (Callback.Alike L)) is is' → Alike L (.vector is) (.vector is')
  | transaction (tx : Option Transaction) : Alike L (.transaction tx) (.transaction tx)

/-- The same answer, but for the failures of hooks and callbacks in its error. -/
inductive Answer.Alike (L : Leeway) : Answer σ ν → Answer σ ν → Prop where
  | registered {r r' : Except PluginError Unit} : Likewise (PluginError.Alike L) Eq r r' →
      Alike L (.registered r) (.registered r')
  | counted {r r' : Except PluginError Nat} : Likewise (PluginError.Alike L) Eq r r' →
      Alike L (.counted r) (.counted r')
  | registrar (r : Except RegistrationError String) : Alike L (.registrar r) (.registrar r)
  | dependency (r : Except RegistrationError Nat) : Alike L (.dependency r) (.dependency r)
  | called {r r' : Except PluginError Unit} : Likewise (PluginError.Alike L) Eq r r' →
      Alike L (.called r) (.called r')
  | failures (n : Nat) : Alike L (.failures n) (.failures n)
  | entered {r r' : Except TransactionError Unit} : Likewise (TransactionError.Alike L) Eq r r' →
      Alike L (.entered r) (.entered r')
  | aborted {r r' : Except TransactionError Nat} : Likewise (TransactionError.Alike L) Eq r r' →
      Alike L (.aborted r) (.aborted r')
  | summary {r r' : Except TransactionError Summary} : Likewise (TransactionError.Alike L) Eq r r' →
      Alike L (.summary r) (.summary r')
  | invoked {r r' : Except TransactionError Unit} : Likewise (TransactionError.Alike L) Eq r r' →
      Alike L (.invoked r) (.invoked r')
  | made (n : Nat) : Alike L (.made n) (.made n)
  | found {f f' : Finding σ ν} : Finding.Alike L f f' → Alike L (.found f) (.found f')
  | nothing : Alike L .nothing .nothing

namespace Session

/-- Entries with the same calls and answers that are alike. -/
structure Entry.Alike (L : Leeway) (e e' : Entry σ ν) : Prop where
  answer : Answer.Alike L e.answer e'.answer
  calls : e.calls = e'.calls

/-- Sessions with like dispatchers and the same transactions. -/
structure Alike (L : Leeway) (x x' : Session σ ν) : Prop where
  dispatcher : Dispatcher.Alike L x.dispatcher x'.dispatcher
  transactions : x.transactions = x'.transactions
  nextId : x.nextId = x'.nextId

namespace Alike

variable {L : Leeway} {x x' : Session σ ν} {cfg : Config}

theorem new : Alike L (Session.new : Session σ ν) .new := ⟨.empty, rfl, rfl⟩

theorem within (h : Alike L x x') {d d' : Dispatcher σ ν} (hd : Dispatcher.Alike L d d') :
    Alike L (x.within d) (x'.within d') := ⟨hd, h.transactions, h.nextId⟩

theorem transaction? (h : Alike L x x') (n : Nat) : x.transaction? n = x'.transaction? n := by
  rw [Session.transaction?, Session.transaction?, h.transactions]

theorem holding (h : Alike L x x') (n : Nat) (tx : Option Transaction) :
    Alike L (x.holding n tx) (x'.holding n tx) :=
  ⟨h.dispatcher, congrArg (·.set n tx) h.transactions, h.nextId⟩

theorem find (h : Alike L x x') (q : Query) : Finding.Alike L (x.find q) (x'.find q) := by
  cases q with
  | plugins => exact .plugins h.dispatcher.registry.plugins
  | plugin name => exact .plugin (h.dispatcher.registry.get? name)
  | withHook kind => exact .plugins (h.dispatcher.registry.withHook kind)
  | dependencies => exact .dependencies h.dispatcher.table.entries
  | dependency id => exact .dependency (h.dispatcher.table.get? id)
  | ofPlugin name => exact .dependencies (h.dispatcher.table.ofPlugin name)
  | lookup key => exact .dependencies (h.dispatcher.table.lookup key)
  | matching key => exact .dependencies (h.dispatcher.table.matching key)
  | vector changes validate => exact .vector (h.dispatcher.table.commitVector changes validate)
  | transaction n =>
    show Finding.Alike L (.transaction (x.transaction? n)) (.transaction (x'.transaction? n))
    rw [h.transaction?]
    exact .transaction _

theorem registrar (h : Alike L x x') (plugin : String) :
    x.registrar plugin = x'.registrar plugin := by
  have hg := h.dispatcher.registry.get? plugin
  unfold Session.registrar
  generalize x.dispatcher.registry.get? plugin = found at hg ⊢
  generalize x'.dispatcher.registry.get? plugin = found' at hg ⊢
  cases hg with
  | none => rfl
  | some hp => exact congrArg Except.ok hp.name

/-- What is done with a transaction by twins, and answered alike. -/
theorem onTransaction {α α' : Type} {A : α → α' → Prop} (h : Alike L x x') (n : Nat)
    {answer : α → Answer σ ν} {answer' : α' → Answer σ ν}
    {act : Transaction → Act σ (Event ν) (α × Option Transaction)}
    {act' : Transaction → Act σ (Event ν) (α' × Option Transaction)}
    (ha : ∀ tx, Twins (Both A Eq) (act tx) (act' tx))
    (hanswer : ∀ a a', A a a' → Answer.Alike L (answer a) (answer' a')) :
    Twins (Both (Answer.Alike L) (Alike L)) (x.onTransaction n answer act)
      (x'.onTransaction n answer' act') := by
  unfold Session.onTransaction
  rw [← h.transaction?]
  cases x.transaction? n with
  | none => exact Twins.pure ⟨.nothing, h⟩
  | some tx =>
    refine (ha tx).bind fun r r' hr => Twins.pure ⟨hanswer _ _ hr.fst, ?_⟩
    rw [← hr.snd]
    exact h.holding n _

/-- A phase that is entered by twins. -/
theorem onPhase {α : Type} (h : Alike L x x') (n : Nat)
    {answer : Except TransactionError α → Answer σ ν}
    {act act' : Transaction → Act σ (Event ν) (Except TransactionError α × Transaction)}
    (ha : ∀ tx, Twins (Both (Likewise (TransactionError.Alike L) Eq) Eq) (act tx) (act' tx))
    (hanswer : ∀ r r', Likewise (TransactionError.Alike L) Eq r r' →
      Answer.Alike L (answer r) (answer r')) :
    Twins (Both (Answer.Alike L) (Alike L))
      (x.onTransaction n answer fun tx => do
        let (r, tx) ← act tx
        return (r, some tx))
      (x'.onTransaction n answer fun tx => do
        let (r, tx) ← act' tx
        return (r, some tx)) :=
  h.onTransaction n
    (fun tx => (ha tx).bind fun _ _ hr => Twins.pure ⟨hr.fst, congrArg some hr.snd⟩) hanswer

/-- What uses a transaction up, by twins. -/
theorem onWhole (h : Alike L x x') (n : Nat)
    {act act' : Transaction → Act σ (Event ν) (Except TransactionError Summary)}
    (ha : ∀ tx, Twins (Likewise (TransactionError.Alike L) Eq) (act tx) (act' tx)) :
    Twins (Both (Answer.Alike L) (Alike L))
      (x.onTransaction n .summary fun tx => do return (← act tx, none))
      (x'.onTransaction n .summary fun tx => do return (← act' tx, none)) :=
  h.onTransaction n (fun tx => (ha tx).bind fun _ _ hr => Twins.pure ⟨hr, rfl⟩) fun _ _ => .summary

theorem invoke (h : Alike L x x') (id : Nat) (op : Op) (view : ChangeView) :
    Twins (Both (Answer.Alike L) (Alike L)) (x.step cfg (.invoke id op view))
      (x'.step cfg (.invoke id op view)) := by
  have hg := h.dispatcher.table.get? id
  simp only [step]
  generalize x.dispatcher.table.get? id = found at hg ⊢
  generalize x'.dispatcher.table.get? id = found' at hg ⊢
  cases hg with
  | none => exact Twins.pure ⟨.nothing, h⟩
  | some hd =>
    exact (Dispatcher.Alike.callBack hd op view).bind fun _ _ hr => Twins.pure ⟨.invoked hr, h⟩

theorem newTransaction (h : Alike L x x') (source target : String) (changes : List Change) :
    Twins (Both (Answer.Alike L) (Alike L)) (x.step cfg (.newTransaction source target changes))
      (x'.step cfg (.newTransaction source target changes)) := by
  obtain ⟨d, transactions, nextId⟩ := x
  obtain ⟨d', transactions', nextId'⟩ := x'
  obtain ⟨hd, rfl, rfl⟩ := h
  exact Twins.pure ⟨.made _, hd, rfl, rfl⟩

/-- Like operations on like sessions are twins. -/
theorem step (h : Alike L x x') {o o' : Operation σ ν} (ho : Operation.Alike L o o') :
    Twins (Both (Answer.Alike L) (Alike L)) (x.step cfg o) (x'.step cfg o') := by
  have hd := h.dispatcher
  cases ho with
  | register hp =>
    exact (hd.register hp).bind fun _ _ hr => Twins.pure ⟨.registered hr.fst, h.within hr.snd⟩
  | registerAll hps =>
    exact (hd.registerAll hps).bind fun _ _ hr => Twins.pure ⟨.counted hr.fst, h.within hr.snd⟩
  | loadAll hpaths =>
    exact (hd.loadAll hpaths).bind fun _ _ hr => Twins.pure ⟨.counted hr.fst, h.within hr.snd⟩
  | registerFor plugin hq =>
    refine (hd.registerFor plugin hq).bind fun _ _ hr => Twins.pure ⟨?_, h.within hr.snd⟩
    rw [hr.fst.eq]
    exact .dependency _
  | start ha => exact (hd.start ha).bind fun _ _ hr => Twins.pure ⟨.called hr, h⟩
  | plain hplain =>
    cases o with
    | register p => cases hplain
    | registerAll ps => cases hplain
    | loadAll disk paths => cases hplain
    | registerFor plugin q => cases hplain
    | start args => cases hplain
    | registrar plugin =>
      simp only [Session.step, h.registrar]
      exact Twins.pure ⟨.registrar _, h⟩
    | reset => exact hd.reset.bind fun _ _ hr => Twins.pure ⟨.called hr, h⟩
    | exit =>
      refine hd.exit.bind fun n n' hn => Twins.pure ⟨?_, h⟩
      rw [hn]
      exact .failures n'
    | teardown => exact hd.teardown.bind fun _ _ hd => Twins.pure ⟨.nothing, h.within hd⟩
    | newTransaction source target changes => exact h.newTransaction source target changes
    | begin n => exact h.onPhase n (fun _ => hd.begin) fun _ _ => .entered
    | complete n => exact h.onPhase n (fun _ => hd.complete) fun _ _ => .entered
    | finish n => exact h.onPhase n (fun _ => hd.finish) fun _ _ => .entered
    | abort n => exact h.onPhase n (fun _ => hd.abort) fun _ _ => .aborted
    | commit n => exact h.onWhole n fun _ => hd.commit
    | validate n => exact h.onWhole n fun _ => hd.validate
    | invoke id op view => exact h.invoke id op view
    | find q => exact Twins.pure ⟨.found (h.find q), h⟩

/-- Like sessions of like operations are twins, operation by operation. -/
theorem run (h : Alike L x x') {operations operations' : List (Operation σ ν)}
    (ho : List.Forall₂ (Operation.Alike L) operations operations') :
    Twins (Both (List.Forall₂ (Entry.Alike L)) (Alike L)) (x.run cfg operations)
      (x'.run cfg operations') := by
  induction ho generalizing x x' with
  | nil => exact Twins.pure ⟨.nil, h⟩
  | cons ho _ ih =>
    refine (h.step ho).listen.bind fun r r' hr => ?_
    refine (ih hr.fst.snd).bind fun later later' hlater => ?_
    exact Twins.pure ⟨.cons ⟨hr.fst.fst, hr.snd⟩ hlater.fst, hlater.snd⟩

end Alike

end Session

end PluginHost
