import PluginHost.Proofs.Backend.Alike
import PluginHost.Proofs.Dispatcher.LikeSessions

/-!
# Hosts, and the plugins they may be given

A host tells its backend what to do, and works with the dispatcher of the plugin manager, on which it
may lead transactions of its own.  What kind of failure a hook or callback comes back with makes no
difference: a message, a status or a panic.  Hosts that are given plugins which fail at the same
calls, each in its own way, make the same calls, come to the same states, and get the same answers
but for the failures that are told of.

    h.Alike h', deeds that are alike → h.run deeds, h'.run deeds' are twins              (Alike.run)
    failures of any kind                                                 (only_occurrence_steers)
-/

namespace PluginHost

variable {σ ν : Type}

/-- A backend, and the transactions that its host holds. -/
structure Host (σ ν : Type) where
  backend : Backend σ ν
  transactions : List (Option Transaction)

/-- Any failure may stand for any other. -/
def anyFailure : Leeway := ⟨fun _ => Eq, fun _ _ _ _ => True, fun _ _ => True, fun _ => True⟩

namespace Host

/-! ## Deeds -/

/-- What a host does: it tells the backend something, works with the dispatcher of the plugin manager,
or has the plugins shown. -/
inductive Deed (σ ν : Type) where
  | tell (c : Backend.Command σ ν)
  | session (o : Operation σ ν)
  | info

/-- What a host gets for it. -/
inductive Reply (σ ν : Type) where
  | told (r : Except HostError Gain)
  | answered (a : Answer σ ν)
  | info (plugins : List PluginInfo)

def new (cfg : Config) : Host σ ν := ⟨⟨cfg, false, false, .ofConfig cfg, 1⟩, []⟩

/-- The dispatcher of the plugin manager, with the transactions that the host holds. -/
def session (h : Host σ ν) : Session σ ν :=
  ⟨h.backend.manager.dispatcher, h.transactions, h.backend.nextTransaction⟩

/-- The host after some work with the dispatcher. -/
def resume (h : Host σ ν) (x : Session σ ν) : Host σ ν :=
  ⟨⟨h.backend.config, h.backend.isSetUp, h.backend.isStarted, h.backend.manager.within x.dispatcher,
    x.nextId⟩, x.transactions⟩

def step (h : Host σ ν) : Deed σ ν → Act σ (Event ν) (Reply σ ν × Host σ ν)
  | .tell c => do
    let (r, b) ← h.backend.serve c
    return (.told r, ⟨b, h.transactions⟩)
  | .session o => do
    let (a, x) ← h.session.step h.backend.config o
    return (.answered a, h.resume x)
  | .info => pure (.info h.backend.manager.info, h)

/-- What came of a deed: the reply, and the calls that were made. -/
structure Turn (σ ν : Type) where
  reply : Reply σ ν
  calls : List Call

def run (h : Host σ ν) : List (Deed σ ν) → Act σ (Event ν) (List (Turn σ ν) × Host σ ν)
  | [] => pure ([], h)
  | deed :: deeds => do
    let ((reply, h), made) ← (h.step deed).listen
    let (turns, h) ← h.run deeds
    return (⟨reply, made⟩ :: turns, h)

/-! ## Hosts that are alike -/

variable {L : Leeway}

/-- The same deed, with plugins, libraries and callbacks that are alike. -/
inductive Deed.Alike (L : Leeway) : Deed σ ν → Deed σ ν → Prop where
  | tell {c c' : Backend.Command σ ν} : Backend.Command.Alike L c c' → Alike L (.tell c) (.tell c')
  | session {o o' : Operation σ ν} : Operation.Alike L o o' → Alike L (.session o) (.session o')
  | info : Alike L .info .info

/-- The same plugin as it is shown, but for its path. -/
inductive LikeInfo (L : Leeway) : PluginInfo → PluginInfo → Prop where
  | intro {name : String} {path path' : Option Path} {hooks : List HookKind}
      {dependencies : List DependencyInfo} : L.path name path path' →
      LikeInfo L ⟨name, path, hooks, dependencies⟩ ⟨name, path', hooks, dependencies⟩

/-- The same reply, but for the failures in its error, and for paths. -/
inductive Reply.Alike (L : Leeway) : Reply σ ν → Reply σ ν → Prop where
  | told {r r' : Except HostError Gain} : LikeReply L r r' → Alike L (.told r) (.told r')
  | answered {a a' : Answer σ ν} : Answer.Alike L a a' → Alike L (.answered a) (.answered a')
  | info {ps ps' : List PluginInfo} : List.Forall₂ (LikeInfo L) ps ps' → Alike L (.info ps) (.info ps')

/-- The same calls, and replies that are alike. -/
structure Turn.Alike (L : Leeway) (t t' : Turn σ ν) : Prop where
  reply : Reply.Alike L t.reply t'.reply
  calls : t.calls = t'.calls

/-- Hosts of like backends that hold the same transactions. -/
structure Alike (L : Leeway) (h h' : Host σ ν) : Prop where
  backend : Backend.Alike L h.backend h'.backend
  transactions : h.transactions = h'.transactions

namespace Alike

variable {h h' : Host σ ν}

theorem new (cfg : Config) (hnone : L.args []) : Alike L (Host.new cfg : Host σ ν) (.new cfg) :=
  ⟨⟨rfl, rfl, rfl, ⟨rfl, .empty, rfl, hnone⟩, rfl⟩, rfl⟩

theorem session (hh : Alike L h h') : Session.Alike L h.session h'.session :=
  ⟨hh.backend.manager.dispatcher, hh.transactions, hh.backend.nextTransaction⟩

theorem resume (hh : Alike L h h') {x x' : Session σ ν} (hx : Session.Alike L x x') :
    Alike L (h.resume x) (h'.resume x') :=
  ⟨⟨hh.backend.config, hh.backend.isSetUp, hh.backend.isStarted,
    hh.backend.manager.within hx.dispatcher, hx.nextId⟩, hx.transactions⟩

/-- Plugins that are alike are shown alike, with the same dependencies. -/
theorem info {m m' : Manager σ ν} (hm : Manager.Alike L m m') :
    List.Forall₂ (LikeInfo L) m.info m'.info := by
  have hdependencies : ∀ {ds ds' : List (Dependency (Callback σ ν))},
      List.Forall₂ (Dependency.Alike (Callback.Alike L)) ds ds' →
        ds.map Manager.dependencyInfo = ds'.map Manager.dependencyInfo := by
    intro ds ds' hds
    induction hds with
    | nil => rfl
    | cons hd _ ih =>
      cases hd
      rw [List.map_cons, List.map_cons, ih]
      rfl
  unfold Manager.info
  rw [List.forall₂_map_left_iff, List.forall₂_map_right_iff]
  refine hm.dispatcher.registry.plugins.imp fun p p' hp => ?_
  rw [← hp.name, ← hp.hooks, ← hdependencies (hm.dispatcher.table.ofPlugin p.name)]
  exact .intro hp.path

theorem step (hh : Alike L h h') {deed deed' : Deed σ ν} (hd : Deed.Alike L deed deed') :
    Twins (Both (Reply.Alike L) (Alike L)) (h.step deed) (h'.step deed') := by
  cases hd with
  | tell hc =>
    exact (hh.backend.serve hc).bind fun _ _ hr =>
      Twins.pure ⟨.told hr.fst, hr.snd, hh.transactions⟩
  | session ho =>
    simp only [Host.step, ← hh.backend.config]
    exact (hh.session.step ho).bind fun _ _ hr => Twins.pure ⟨.answered hr.fst, hh.resume hr.snd⟩
  | info => exact Twins.pure ⟨.info (info hh.backend.manager), hh⟩

/-- Like deeds of like hosts are twins, one after another. -/
theorem run (hh : Alike L h h') {deeds deeds' : List (Deed σ ν)}
    (hd : List.Forall₂ (Deed.Alike L) deeds deeds') :
    Twins (Both (List.Forall₂ (Turn.Alike L)) (Alike L)) (h.run deeds) (h'.run deeds') := by
  induction hd generalizing h h' with
  | nil => exact Twins.pure ⟨.nil, hh⟩
  | cons hd _ ih =>
    refine (hh.step hd).listen.bind fun r r' hr => ?_
    refine (ih hr.fst.snd).bind fun later later' hlater => ?_
    exact Twins.pure ⟨.cons ⟨hr.fst.fst, hr.snd⟩ hlater.fst, hlater.snd⟩

end Alike

/-- Whether hooks and callbacks fail matters, how they fail does not: hosts that do the same with
plugins of the same effects, which fail at the same calls in whatever ways, leave the same state of
the plugins, make the same calls deed by deed, get the same replies but for the failures told of, and
come to the same dispatcher, transactions and backend. -/
theorem only_occurrence_steers {h h' : Host σ ν} (hh : Alike anyFailure h h')
    {deeds deeds' : List (Deed σ ν)} (hd : List.Forall₂ (Deed.Alike anyFailure) deeds deeds')
    (s : σ) :
    let r := h.run deeds s
    let r' := h'.run deeds' s
    r.state = r'.state ∧ List.Forall₂ (Turn.Alike anyFailure) r.value.1 r'.value.1 ∧
      Alike anyFailure r.value.2 r'.value.2 := by
  have ht := hh.run hd
  exact ⟨ht.state s, (ht.value s).fst, (ht.value s).snd⟩

/-! ## Two tempers -/

/-- A plugin that counts its calls and fails at each of them in one way. -/
def moody (o : Outcome) : Plugin Nat Unit where
  name := "moody"
  path := none
  init := some fun _ _ n => .register [] ⟨.validateKey, 0, "mood", none, fun _ _ _ n => ⟨o, n + 1, []⟩⟩
    fun _ => .finish [] (n + 1) o
  start := some fun _ _ n => ⟨o, n + 1, []⟩
  exit := some fun _ _ n => ⟨o, n + 1, []⟩
  reset := some fun _ _ n => ⟨o, n + 1, []⟩
  phase := fun ph => if ph = .abort then some fun _ _ n => ⟨o, n + 1, []⟩ else none

/-- A day with a moody plugin, which no other plugin shares. -/
def day (o : Outcome) : List (Deed Nat Unit) :=
  [.tell (.register (moody o)), .tell (.setUp ⟨fun _ _ => .ok [], fun _ _ => .error (.library "")⟩),
    .tell .reset, .tell (.start []), .session (.newTransaction "dusk" "dawn" [.added "mood" []]),
    .session (.commit 0), .tell (.validate ⟨none, none, [.deleted "mood" []]⟩), .info, .tell .shutdown]

theorem alike_moody {o o' : Outcome} (h : Likewise (fun _ _ => True) Eq o.result o'.result) :
    Plugin.Alike anyFailure (moody o) (moody o') where
  name := rfl
  path := rfl
  init := .some fun _ _ _ => .register (.intro fun _ _ _ _ => ⟨rfl, h⟩) fun _ => .finish h
  start := .some fun _ _ _ _ => ⟨rfl, h⟩
  exit := .some fun _ _ _ _ => ⟨rfl, h⟩
  reset := .some fun _ _ _ _ => ⟨rfl, h⟩
  phase ph := by
    unfold moody
    simp only
    split
    · exact .some fun _ _ _ _ => ⟨rfl, h⟩
    · exact .none

/-- Whether it sulks or bursts, the plugin is called as often. -/
theorem only_occurrence_steers_day :
    let sulks := day (.failed (.message "leave me"))
    let bursts := day (.panicked .other)
    let r := (new .standard).run sulks 0
    let r' := (new .standard).run bursts 0
    Alike anyFailure (new .standard : Host Nat Unit) (new .standard) ∧
    List.Forall₂ (Deed.Alike anyFailure) sulks bursts ∧
    r.state = 7 ∧ r.state = r'.state ∧
    List.Forall₂ (Turn.Alike anyFailure) r.value.1 r'.value.1 ∧
    Alike anyFailure r.value.2 r'.value.2 := by
  intro sulks bursts r r'
  have hnew : Alike anyFailure (new .standard : Host Nat Unit) (new .standard) := .new _ trivial
  have hday : List.Forall₂ (Deed.Alike anyFailure) sulks bursts :=
    .cons (.tell (.register (alike_moody (.error trivial))))
      (.cons (.tell (.setUp ⟨rfl, fun _ _ => .error rfl⟩)) (.cons (.tell .reset)
      (.cons (.tell (.start trivial)) (.cons (.session (.plain rfl)) (.cons (.session (.plain rfl))
      (.cons (.tell (.validate _)) (.cons .info (.cons (.tell .shutdown) .nil))))))))
  exact ⟨hnew, hday, by decide +kernel, only_occurrence_steers hnew hday 0⟩

end Host

end PluginHost
