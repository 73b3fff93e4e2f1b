import PluginHost.Dispatcher.Commit
import PluginHost.Loader
import PluginHost.Proofs.Dispatcher.Protocol
import PluginHost.Proofs.Registry

/-!
# Sessions

A session is what a host does with a dispatcher and with the transactions that it holds: one
operation after another, each with its answer.  Some operations are refused: a plugin whose name is
taken, a dependency of an unknown plugin or on a key that is not well formed, a phase at the wrong
time.  A refused operation leaves no trace: without it, the rest of the session is the same.

    x.Refuses o ↔ the answer is a refusal                                 (isRefusal_step_iff)
    x.Refuses o → the step calls nothing and changes nothing              (leavesNoTrace_of_refuses)
    a session without its refused operations has the same other answers, the same calls and the
    same end                                                                (run_without_refused)
-/

namespace PluginHost

variable {σ ν : Type}

/-- An act that also gives the calls that it makes. -/
def Act.listen {α : Type} (m : Act σ (Event ν) α) : Act σ (Event ν) (α × List Call) := fun s =>
  ⟨((m s).value, calls (m s).trace), (m s).state, (m s).trace⟩

/-! ## Operations and answers -/

/-- What a host may look up. -/
inductive Query where
  | plugins
  | plugin (name : String)
  | withHook (kind : HookKind)
  | dependencies
  | dependency (id : Nat)
  | ofPlugin (name : String)
  | lookup (key : String)
  | matching (key : String)
  | vector (changes : List Change) (validate : Bool)
  | transaction (n : Nat)

/-- What is found. -/
inductive Finding (σ ν : Type) where
  | plugins (ps : List (Plugin σ ν))
  | plugin (p : Option (Plugin σ ν))
  | dependencies (deps : List (Dependency (Callback σ ν)))
  | dependency (dep : Option (Dependency (Callback σ ν)))
  | vector (calls : List (Invocation (Callback σ ν)))
  | transaction (tx : Option Transaction)

/-- What a host may do.  Transactions are named by their places in the order in which they were
made.  A host asks for the `registrar` of a plugin before it registers dependencies for it; each
`registerFor` is one registration through it. -/
inductive Operation (σ ν : Type) where
  | register (p : Plugin σ ν)
  | registerAll (ps : List (Plugin σ ν))
  | loadAll (disk : Disk σ ν) (paths : List Path)
  | registrar (plugin : String)
  | registerFor (plugin : String) (request : Request (Callback σ ν))
  | start (args : List String)
  | reset
  | exit
  | teardown
  | newTransaction (source target : String) (changes : List Change)
  | begin (n : Nat)
  | complete (n : Nat)
  | finish (n : Nat)
  | abort (n : Nat)
  | commit (n : Nat)
  | validate (n : Nat)
  | invoke (id : Nat) (op : Op) (view : ChangeView)
  | find (q : Query)

/-- What a host is answered. -/
inductive Answer (σ ν : Type) where
  | registered (r : Except PluginError Unit)
  | counted (r : Except PluginError Nat)
  | registrar (r : Except RegistrationError String)
  | dependency (r : Except RegistrationError Nat)
  | called (r : Except PluginError Unit)
  | failures (n : Nat)
  | entered (r : Except TransactionError Unit)
  | aborted (r : Except TransactionError Nat)
  | summary (r : Except TransactionError Summary)
  | invoked (r : Except TransactionError Unit)
  | made (n : Nat)
  | found (f : Finding σ ν)
  | nothing

/-- Whether an operation was refused: its plugin as a duplicate, its dependency for the name or the
key, its phase for the state of the transaction. -/
def Answer.isRefusal : Answer σ ν → Bool
  | .registered (.error (.duplicate _)) => true
  | .registrar (.error _) => true
  | .dependency (.error _) => true
  | .entered (.error (.invalidState _ _)) => true
  | .aborted (.error (.invalidState _ _)) => true
  | _ => false

/-- A dispatcher, and the transactions that its host holds, without those that were used up. -/
structure Session (σ ν : Type) where
  dispatcher : Dispatcher σ ν
  transactions : List (Option Transaction)
  nextId : Nat

namespace Session

def new : Session σ ν := ⟨.empty, [], 1⟩

def within (x : Session σ ν) (d : Dispatcher σ ν) : Session σ ν := ⟨d, x.transactions, x.nextId⟩

/-- The transaction at a place, unless it was used up. -/
def transaction? (x : Session σ ν) (n : Nat) : Option Transaction := x.transactions[n]?.join

/-- The session with another transaction at a place, or none. -/
def holding (x : Session σ ν) (n : Nat) (tx : Option Transaction) : Session σ ν :=
  ⟨x.dispatcher, x.transactions.set n tx, x.nextId⟩

def find (x : Session σ ν) : Query → Finding σ ν
  | .plugins => .plugins x.dispatcher.registry.plugins
  | .plugin name => .plugin (x.dispatcher.registry.get? name)
  | .withHook kind => .plugins (x.dispatcher.registry.withHook kind)
  | .dependencies => .dependencies x.dispatcher.table.entries
  | .dependency id => .dependency (x.dispatcher.table.get? id)
  | .ofPlugin name => .dependencies (x.dispatcher.table.ofPlugin name)
  | .lookup key => .dependencies (x.dispatcher.table.lookup key)
  | .matching key => .dependencies (x.dispatcher.table.matching key)
  | .vector changes validate => .vector (x.dispatcher.table.commitVector changes validate)
  | .transaction n => .transaction (x.transaction? n)

/-- The name under which dependencies of a plugin are registered. -/
def registrar (x : Session σ ν) (plugin : String) : Except RegistrationError String :=
  match x.dispatcher.registry.get? plugin with
  | none => .error (.unknownPlugin plugin)
  | some p => .ok p.name

/-- Does something with the transaction at a place, and keeps what becomes of it. -/
def onTransaction {α : Type} (x : Session σ ν) (n : Nat) (answer : α → Answer σ ν)
    (act : Transaction → Act σ (Event ν) (α × Option Transaction)) :
    Act σ (Event ν) (Answer σ ν × Session σ ν) :=
  match x.transaction? n with
  | none => pure (.nothing, x)
  | some tx => do
    let (a, tx) ← act tx
    return (answer a, x.holding n tx)

def step (cfg : Config) (x : Session σ ν) :
    Operation σ ν → Act σ (Event ν) (Answer σ ν × Session σ ν)
  | .register p => do
    let (r, d) ← x.dispatcher.register cfg p
    return (.registered r, x.within d)
  | .registerAll ps => do
    let (r, d) ← x.dispatcher.registerAll cfg ps
    return (.counted r, x.within d)
  | .loadAll disk paths => do
    let (r, d) ← x.dispatcher.loadAll disk cfg paths
    return (.counted r, x.within d)
  | .registrar plugin => pure (.registrar (x.registrar plugin), x)
  | .registerFor plugin request => do
    let (r, d) ← x.dispatcher.registerFor plugin request
    return (.dependency r, x.within d)
  | .start args => do return (.called (← x.dispatcher.start cfg args), x)
  | .reset => do return (.called (← x.dispatcher.reset cfg), x)
  | .exit => do return (.failures (← x.dispatcher.exit cfg), x)
  | .teardown => do return (.nothing, x.within (← x.dispatcher.teardown))
  | .newTransaction source target changes =>
    let tx := Transaction.fresh x.nextId source target changes
    pure (.made x.transactions.length,
      ⟨x.dispatcher, x.transactions ++ [some tx], x.nextId + 1⟩)
  | .begin n => x.onTransaction n .entered fun tx => do
    let (r, tx) ← x.dispatcher.begin cfg tx
    return (r, some tx)
  | .complete n => x.onTransaction n .entered fun tx => do
    let (r, tx) ← x.dispatcher.complete cfg tx
    return (r, some tx)
  | .finish n => x.onTransaction n .entered fun tx => do
    let (r, tx) ← x.dispatcher.finish cfg tx
    return (r, some tx)
  | .abort n => x.onTransaction n .aborted fun tx => do
    let (r, tx) ← x.dispatcher.abort cfg tx
    return (r, some tx)
  | .commit n => x.onTransaction n .summary fun tx => do
    return (← x.dispatcher.commit cfg tx, none)
  | .validate n => x.onTransaction n .summary fun tx => do
    return (← x.dispatcher.validate cfg tx, none)
  | .invoke id op view =>
    match x.dispatcher.table.get? id with
    | none => pure (.nothing, x)
    | some dep => do return (.invoked (← Dispatcher.callBack cfg dep op view), x)
  | .find q => pure (.found (x.find q), x)

/-- An operation of a session, with its answer and the calls that it made. -/
structure Entry (σ ν : Type) where
  operation : Operation σ ν
  answer : Answer σ ν
  calls : List Call

def run (cfg : Config) (x : Session σ ν) :
    List (Operation σ ν) → Act σ (Event ν) (List (Entry σ ν) × Session σ ν)
  | [] => pure ([], x)
  | o :: os => do
    let ((answer, x), made) ← (x.step cfg o).listen
    let (entries, x) ← x.run cfg os
    return (⟨o, answer, made⟩ :: entries, x)

/-! ## What is refused -/

/-- A transaction is there, but not in a state in which the phase may start. -/
def Bars (x : Session σ ν) (n : Nat) (ph : Phase) : Prop :=
  ∃ tx, x.transaction? n = some tx ∧ tx.state ∉ ph.allowed

/-- An operation is refused as things stand. -/
def Refuses (x : Session σ ν) : Operation σ ν → Prop
  | .register p => x.dispatcher.registry.contains p.name = true
  | .registrar plugin => x.dispatcher.registry.get? plugin = none
  | .registerFor plugin request =>
    x.dispatcher.registry.get? plugin = none ∨ ∃ fault, Key.fault? request.key = some fault
  | .begin n => x.Bars n .begin
  | .complete n => x.Bars n .complete
  | .finish n => x.Bars n .finish
  | .abort n => x.Bars n .abort
  | _ => False

/-- A step that is refused: it calls nothing, and all is as before. -/
structure LeavesNoTrace (x : Session σ ν) (s : σ)
    (r : Ran σ (Event ν) (Answer σ ν × Session σ ν)) : Prop where
  refused : r.value.1.isRefusal = true
  session : r.value.2 = x
  state : r.state = s
  calls : calls r.trace = []

variable {x : Session σ ν} {cfg : Config} {o : Operation σ ν} {n : Nat} {tx : Transaction} {s : σ}

theorem holding_self (h : x.transaction? n = some tx) : x.holding n (some tx) = x := by
  have hn : x.transactions[n]? = some (some tx) := by
    rw [transaction?] at h
    exact Option.join_eq_some_iff.1 h
  obtain ⟨hlt, hget⟩ := List.getElem?_eq_some_iff.1 hn
  rw [holding, ← hget, List.set_getElem_self]

/-- What is refused to a transaction, and leaves it as it is, leaves the session as it is. -/
theorem leavesNoTrace_onTransaction {α : Type} {answer : α → Answer σ ν} {a : α}
    {act : Transaction → Act σ (Event ν) (α × Option Transaction)}
    (h : x.transaction? n = some tx) (ha : act tx s = ⟨(a, some tx), s, []⟩)
    (hr : (answer a).isRefusal = true) :
    LeavesNoTrace x s (x.onTransaction n answer act s) := by
  have hact : x.onTransaction n answer act s = ⟨(answer a, x), s, []⟩ := by
    simp only [onTransaction, h, Act.run_bind, ha, holding_self h]
    rfl
  rw [hact]
  exact ⟨hr, rfl, rfl, rfl⟩

theorem leavesNoTrace_register {p : Plugin σ ν}
    (h : x.dispatcher.registry.contains p.name = true) (s : σ) :
    LeavesNoTrace x s (x.step cfg (.register p) s) := by
  have hi : x.dispatcher.registry.insert p = .error (.duplicate p.name) := if_pos h
  simp only [step, Dispatcher.register, hi]
  exact ⟨rfl, rfl, rfl, rfl⟩

theorem leavesNoTrace_registerFor {plugin : String} {request : Request (Callback σ ν)}
    (h : x.dispatcher.registry.get? plugin = none ∨ ∃ fault, Key.fault? request.key = some fault)
    (s : σ) : LeavesNoTrace x s (x.step cfg (.registerFor plugin request) s) := by
  simp only [step, Dispatcher.registerFor]
  cases hp : x.dispatcher.registry.get? plugin with
  | none => exact ⟨rfl, rfl, rfl, rfl⟩
  | some p =>
    obtain ⟨fault, hf⟩ := h.resolve_left (by simp [hp])
    have hi : x.dispatcher.table.insert p.name request
        = .error (.invalidKey request.key fault) := by
      simp only [Table.insert, hf]
    simp only [hi]
    exact ⟨rfl, rfl, rfl, rfl⟩

/-- A phase that only reports whether it went well, at the wrong time. -/
theorem leavesNoTrace_enter {ph : Phase} (h : x.Bars n ph) (s : σ) :
    LeavesNoTrace x s (x.onTransaction n .entered (fun tx => do
      let (r, tx) ← x.dispatcher.enter cfg tx ph
      return (r, some tx)) s) := by
  obtain ⟨tx, htx, hs⟩ := h
  refine leavesNoTrace_onTransaction (a := .error (.invalidState ph tx.state)) htx ?_ rfl
  simp only [Act.run_bind, Dispatcher.enter_refused hs]
  rfl

theorem leavesNoTrace_abort (h : x.Bars n .abort) (s : σ) :
    LeavesNoTrace x s (x.step cfg (.abort n) s) := by
  obtain ⟨tx, htx, hs⟩ := h
  refine leavesNoTrace_onTransaction (a := .error (.invalidState .abort tx.state)) htx ?_ rfl
  simp only [Dispatcher.abort, if_neg hs]
  rfl

/-- What is refused calls nothing and changes nothing. -/
theorem leavesNoTrace_of_refuses (cfg : Config) (h : x.Refuses o) (s : σ) :
    LeavesNoTrace x s (x.step cfg o s) := by
  cases o with
  | register p => exact leavesNoTrace_register h s
  | registrar plugin =>
    have hp : x.dispatcher.registry.get? plugin = none := h
    simp only [step, registrar, hp]
    exact ⟨rfl, rfl, rfl, rfl⟩
  | registerFor plugin request => exact leavesNoTrace_registerFor h s
  | begin n => exact leavesNoTrace_enter h s
  | complete n => exact leavesNoTrace_enter h s
  | finish n => exact leavesNoTrace_enter h s
  | abort n => exact leavesNoTrace_abort h s
  | _ => exact h.elim

/-! ## What is accepted -/

/-- What comes of an act on a transaction that is there, or nothing. -/
theorem isRefusal_onTransaction {α : Type} {answer : α → Answer σ ν}
    {act : Transaction → Act σ (Event ν) (α × Option Transaction)}
    (h : ∀ tx, x.transaction? n = some tx → (answer (act tx s).value.1).isRefusal = false) :
    (x.onTransaction n answer act s).value.1.isRefusal = false := by
  unfold onTransaction
  cases htx : x.transaction? n with
  | none => rfl
  | some tx => exact h tx htx

theorem allowed_of_not_bars {ph : Phase} (h : ¬ x.Bars n ph) (htx : x.transaction? n = some tx) :
    tx.state ∈ ph.allowed :=
  Decidable.byContradiction fun hs => h ⟨tx, htx, hs⟩

/-- A phase was refused if it was no attempt. -/
theorem isRefusal_entered (ph : Phase) (r : Except TransactionError Unit) :
    (Answer.entered r : Answer σ ν).isRefusal = (Dispatcher.attempt? ph r).isNone := by
  cases r with
  | ok u => rfl
  | error e => cases e <;> rfl

theorem isRefusal_enter {ph : Phase} (h : ¬ x.Bars n ph) (s : σ) :
    (x.onTransaction n .entered (fun tx => do
      let (r, tx) ← x.dispatcher.enter cfg tx ph
      return (r, some tx)) s).value.1.isRefusal = false := by
  refine isRefusal_onTransaction fun tx htx => ?_
  obtain ⟨good, result, plan, he⟩ :=
    Dispatcher.enters_of_allowed x.dispatcher cfg (allowed_of_not_bars h htx) s
  simp only [Act.run_bind, he.performs.value, Act.run_pure]
  rw [isRefusal_entered ph, he.attempt]
  rfl

theorem isRefusal_abort (h : ¬ x.Bars n .abort) (s : σ) :
    (x.step cfg (.abort n) s).value.1.isRefusal = false := by
  refine isRefusal_onTransaction fun tx htx => ?_
  obtain ⟨k, hp⟩ := x.dispatcher.performs_abort cfg tx (allowed_of_not_bars h htx) s
  simp only [Act.run_bind, hp.value, Act.run_pure]
  rfl

theorem isRefusal_register {p : Plugin σ ν} (h : ¬ x.dispatcher.registry.contains p.name = true)
    (s : σ) : (x.step cfg (.register p) s).value.1.isRefusal = false := by
  have hi : x.dispatcher.registry.insert p = .ok (x.dispatcher.registry.push p) := if_neg h
  simp only [step, Dispatcher.register, hi]
  cases hp : p.init with
  | none => rfl
  | some hook =>
    simp only [Act.run_bind]
    generalize (Dispatcher.callInit x.dispatcher.table cfg p.name hook s).value = r
    obtain ⟨r, table⟩ := r
    cases r with
    | ok u => rfl
    | error cause => rfl

theorem isRefusal_registerFor {plugin : String} {request : Request (Callback σ ν)}
    (h : ¬ x.Refuses (.registerFor plugin request)) (s : σ) :
    (x.step cfg (.registerFor plugin request) s).value.1.isRefusal = false := by
  obtain ⟨hp, hk⟩ := not_or.1 h
  obtain ⟨p, hp⟩ := Option.ne_none_iff_exists'.1 hp
  have hf : Key.fault? request.key = none :=
    Option.eq_none_iff_forall_ne_some.2 fun fault hf => hk ⟨fault, hf⟩
  simp only [step, Dispatcher.registerFor, hp, Table.insert, hf]
  rfl

theorem isRefusal_invoke (id : Nat) (op : Op) (view : ChangeView) (s : σ) :
    (x.step cfg (.invoke id op view) s).value.1.isRefusal = false := by
  simp only [step]
  cases x.dispatcher.table.get? id with
  | none => rfl
  | some dep => rfl

/-- The answer tells what was refused. -/
theorem isRefusal_step_iff (x : Session σ ν) (cfg : Config) (o : Operation σ ν) (s : σ) :
    (x.step cfg o s).value.1.isRefusal = true ↔ x.Refuses o := by
  refine ⟨fun h => Classical.byContradiction fun hn => ?_,
    fun h => (leavesNoTrace_of_refuses cfg h s).refused⟩
  refine Bool.eq_false_iff.1 ?_ h
  cases o with
  | register p => exact isRefusal_register hn s
  | registrar plugin =>
    obtain ⟨p, hp⟩ := Option.ne_none_iff_exists'.1 hn
    simp only [step, registrar, hp]
    rfl
  | registerFor plugin request => exact isRefusal_registerFor hn s
  | begin n => exact isRefusal_enter hn s
  | complete n => exact isRefusal_enter hn s
  | finish n => exact isRefusal_enter hn s
  | abort n => exact isRefusal_abort hn s
  | commit n => exact isRefusal_onTransaction fun _ _ => rfl
  | validate n => exact isRefusal_onTransaction fun _ _ => rfl
  | invoke id op view => exact isRefusal_invoke id op view s
  | registerAll ps => rfl
  | loadAll disk paths => rfl
  | start args => rfl
  | reset => rfl
  | exit => rfl
  | teardown => rfl
  | newTransaction source target changes => rfl
  | find q => rfl

/-! ## Sessions without what was refused -/

theorem run_cons (x : Session σ ν) (cfg : Config) (o : Operation σ ν)
    (operations : List (Operation σ ν)) (s : σ) :
    let first := x.step cfg o s
    let later := first.value.2.run cfg operations first.state
    x.run cfg (o :: operations) s
      = ⟨(⟨o, first.value.1, calls first.trace⟩ :: later.value.1, later.value.2), later.state,
        first.trace ++ later.trace⟩ := by
  simp only [run, Act.listen, Act.run_bind, Act.run_pure, List.append_nil]

theorem map_operation_run (x : Session σ ν) (cfg : Config) (operations : List (Operation σ ν))
    (s : σ) : (x.run cfg operations s).value.1.map Entry.operation = operations := by
  induction operations generalizing x s with
  | nil => rfl
  | cons o operations ih => rw [run_cons, List.map_cons, ih]

/-- The entries of the operations that were not refused. -/
def accepted (entries : List (Entry σ ν)) : List (Entry σ ν) :=
  entries.filter fun e => !e.answer.isRefusal

theorem accepted_cons_of_refusal {e : Entry σ ν} (h : e.answer.isRefusal = true)
    (entries : List (Entry σ ν)) : accepted (e :: entries) = accepted entries :=
  List.filter_cons_of_neg (by simp [h])

theorem accepted_cons_of_not_refusal {e : Entry σ ν} (h : ¬ e.answer.isRefusal = true)
    (entries : List (Entry σ ν)) : accepted (e :: entries) = e :: accepted entries :=
  List.filter_cons_of_pos (by simpa using h)

/-- One run comes to the same as another, but without what the other refused. -/
structure Condenses (all rest : Ran σ (Event ν) (List (Entry σ ν) × Session σ ν)) : Prop where
  entries : rest.value.1 = accepted all.value.1
  session : rest.value.2 = all.value.2
  state : rest.state = all.state
  calls : calls rest.trace = calls all.trace

/-- A session from which all refused operations are left out gives the other operations the same
answers, by the same calls, and comes to the same end. -/
theorem run_without_refused (cfg : Config) (operations : List (Operation σ ν)) (x : Session σ ν)
    (s : σ) :
    let all := x.run cfg operations s
    all.value.1.map Entry.operation = operations ∧
    Condenses all (x.run cfg ((accepted all.value.1).map Entry.operation) s) := by
  refine ⟨x.map_operation_run cfg operations s, ?_⟩
  induction operations generalizing x s with
  | nil => exact ⟨rfl, rfl, rfl, rfl⟩
  | cons o operations ih =>
    let first := x.step cfg o s
    obtain ⟨hentries, hsession, hstate, hcalls⟩ := ih first.value.2 first.state
    simp only [run_cons]
    by_cases hr : first.value.1.isRefusal = true
    · obtain ⟨-, hx, hs, hc⟩ :=
        leavesNoTrace_of_refuses cfg ((isRefusal_step_iff x cfg o s).1 hr) s
      -- the others begin where the session began
      simp only [first, hx, hs] at hentries hsession hstate hcalls ⊢
      rw [accepted_cons_of_refusal hr]
      refine ⟨?_, hsession, hstate, ?_⟩
      · rw [accepted_cons_of_refusal hr, hentries]
      · rw [hcalls, calls_append, hc, List.nil_append]
    · rw [accepted_cons_of_not_refusal hr, List.map_cons, run_cons]
      refine ⟨?_, hsession, hstate, ?_⟩
      · rw [accepted_cons_of_not_refusal hr, hentries]
      · rw [calls_append, calls_append, hcalls]

/-- A name is taken, and a transaction is completed before it is begun. -/
example :
    let ann : Plugin Unit Unit := .named "ann"
    let errand := [.register ann, .register ann, .newTransaction "now" "then" [], .complete 0,
      .registrar "bob", .begin 0, .complete 0]
    ((new.run .standard errand ()).value.1.map fun e => e.answer.isRefusal)
      = [false, true, false, true, true, false, false] := by
  decide +kernel

end Session

end PluginHost
