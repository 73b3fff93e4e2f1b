import PluginHost.Proofs.Dispatcher.Register

/-!
# Admitting plugins

Plugins are found one after another, and each is registered and its init hook called before the next
is looked for.  What a plugin comes upon is a scene: the plugins that are registered, the table, and
the state.  `after` leads from one scene to another, plugin by plugin.

    x.Welcomes cfg ps       all come in: no name is taken, and no init hook fails
    x.Halts cfg f extra e   what is found does not come in, with an error; `extra` is registered all
                            the same
    x.Admits cfg met ps e?  of what is met, those before the first that halts are registered

    plugins that come in where others left off come in after them              (Welcomes.append)
    a plugin that comes in does not halt                                    (Welcomes.not_halts)
    registering a plugin brings it in, or halts                                (brings_register)
-/

namespace PluginHost

variable {σ ν : Type}

/-- What looking for a plugin comes to: a plugin, or why there is none. -/
abbrev Found (σ ν : Type) : Type := Except PluginError (Plugin σ ν)

/-- The registered plugins, the table of their dependencies, and the state. -/
structure Scene (σ ν : Type) where
  registry : Registry σ ν
  table : Table (Callback σ ν)
  state : σ

def Dispatcher.scene (d : Dispatcher σ ν) (s : σ) : Scene σ ν := ⟨d.registry, d.table, s⟩

@[simp] theorem Dispatcher.scene_state (d : Dispatcher σ ν) (s : σ) : (d.scene s).state = s := rfl

namespace Scene

/-! ## One plugin after another -/

/-- What the init hook of a plugin does on a scene, if the plugin has one. -/
def init (x : Scene σ ν) (cfg : Config) (p : Plugin σ ν) :
    Ran σ (Note ν) (Outcome × Table (Callback σ ν)) :=
  match p.init with
  | none => ⟨(.done, x.table), x.state, []⟩
  | some hook => (hook cfg p.name x.state).run p.name x.table

def initResult (x : Scene σ ν) (cfg : Config) (p : Plugin σ ν) : Except HookError Unit :=
  (x.init cfg p).value.1.result

/-- The scene after a plugin is registered and its init hook called. -/
def next (x : Scene σ ν) (cfg : Config) (p : Plugin σ ν) : Scene σ ν :=
  ⟨x.registry.push p, (x.init cfg p).value.2, (x.init cfg p).state⟩

/-- The scene after plugins, each coming upon what those before it left. -/
def after (x : Scene σ ν) (cfg : Config) (ps : List (Plugin σ ν)) : Scene σ ν :=
  ps.foldl (fun x p => x.next cfg p) x

variable {x : Scene σ ν} {cfg : Config} {p : Plugin σ ν} {ps qs : List (Plugin σ ν)}

@[simp] theorem after_nil (x : Scene σ ν) (cfg : Config) : x.after cfg [] = x := rfl

@[simp] theorem after_cons (x : Scene σ ν) (cfg : Config) (p : Plugin σ ν)
    (ps : List (Plugin σ ν)) : x.after cfg (p :: ps) = (x.next cfg p).after cfg ps := rfl

@[simp] theorem after_append (x : Scene σ ν) (cfg : Config) (ps qs : List (Plugin σ ν)) :
    x.after cfg (ps ++ qs) = (x.after cfg ps).after cfg qs :=
  List.foldl_append

theorem plugins_after (x : Scene σ ν) (cfg : Config) (ps : List (Plugin σ ν)) :
    (x.after cfg ps).registry.plugins = x.registry.plugins ++ ps := by
  induction ps generalizing x with
  | nil => exact (List.append_nil _).symm
  | cons p ps ih =>
    rw [after_cons, ih]
    exact List.append_assoc _ _ _

theorem contains_after (x : Scene σ ν) (cfg : Config) (ps : List (Plugin σ ν)) (name : String) :
    (x.after cfg ps).registry.contains name = true ↔
      x.registry.contains name = true ∨ name ∈ ps.map Plugin.name := by
  induction ps generalizing x with
  | nil => simp
  | cons p ps ih =>
    rw [after_cons, ih, next, Registry.contains_push, List.map_cons, List.mem_cons, or_assoc]

/-- An init hook reaches the table by requests in the name of its plugin only. -/
theorem table_next (x : Scene σ ν) (cfg : Config) (p : Plugin σ ν) :
    ∃ requests, (x.next cfg p).table = x.table.registering p.name requests := by
  show ∃ requests, (x.init cfg p).value.2 = _
  unfold init
  cases p.init with
  | none => exact ⟨[], rfl⟩
  | some hook => exact Setup.exists_requests p.name (hook cfg p.name x.state) x.table

/-- Of plugins one after another, each leaves the table that it came upon, grown by its requests. -/
theorem table_after (x : Scene σ ν) (cfg : Config) {n : Nat} (h : ps[n]? = some p) :
    ∃ requests, (x.after cfg (ps.take (n + 1))).table
      = (x.after cfg (ps.take n)).table.registering p.name requests := by
  rw [List.take_add_one, h, after_append]
  exact table_next _ cfg p

/-! ## Who comes in -/

/-- Plugins that all come in: their names are new, and each init hook goes well where those before
it left off. -/
structure Welcomes (x : Scene σ ν) (cfg : Config) (ps : List (Plugin σ ν)) : Prop where
  fresh : ∀ p ∈ ps, x.registry.contains p.name = false
  distinct : (ps.map Plugin.name).Nodup
  inits : ∀ n p, ps[n]? = some p → (x.after cfg (ps.take n)).initResult cfg p = .ok ()

/-- What is found does not come in, with an error, and this is registered of it. -/
inductive Halts (x : Scene σ ν) (cfg : Config) :
    Found σ ν → List (Plugin σ ν) → PluginError → Prop
  | obstacle (e : PluginError) : Halts x cfg (.error e) [] e
  | taken (p : Plugin σ ν) : x.registry.contains p.name = true →
      Halts x cfg (.ok p) [] (.duplicate p.name)
  | failed (p : Plugin σ ν) (cause : HookError) : x.registry.contains p.name = false →
      x.initResult cfg p = .error cause → Halts x cfg (.ok p) [p] (.hook p.name .init cause)

/-- What is met, one after another, up to the first that halts; with those that are registered, and
the error if one halts. -/
inductive Admits (x : Scene σ ν) (cfg : Config) :
    List (Found σ ν) → List (Plugin σ ν) → Option PluginError → Prop
  | all (ps : List (Plugin σ ν)) : x.Welcomes cfg ps → Admits x cfg (ps.map .ok) ps none
  | upTo (before : List (Plugin σ ν)) (f : Found σ ν) (extra : List (Plugin σ ν))
      (e : PluginError) : x.Welcomes cfg before → (x.after cfg before).Halts cfg f extra e →
      Admits x cfg (before.map .ok ++ [f]) (before ++ extra) (some e)

theorem welcomes_nil (x : Scene σ ν) (cfg : Config) : x.Welcomes cfg [] where
  fresh := by nofun
  distinct := List.nodup_nil
  inits := by simp

theorem Welcomes.singleton (hp : x.registry.contains p.name = false)
    (hi : x.initResult cfg p = .ok ()) : x.Welcomes cfg [p] where
  fresh q hq := by rwa [List.mem_singleton.1 hq]
  distinct := List.nodup_singleton _
  inits n q hn := by
    obtain ⟨rfl, rfl⟩ : n = 0 ∧ p = q := by simpa [List.getElem?_singleton] using hn
    exact hi

theorem Welcomes.append (h : x.Welcomes cfg ps) (hq : (x.after cfg ps).Welcomes cfg qs) :
    x.Welcomes cfg (ps ++ qs) := by
  -- a name that is new after `ps` is new before them, and none of theirs
  have hnew : ∀ q ∈ qs, x.registry.contains q.name = false ∧ q.name ∉ ps.map Plugin.name := by
    intro q hm
    have hc := Bool.eq_false_iff.1 (hq.fresh q hm)
    rw [Ne, contains_after, not_or, Bool.not_eq_true] at hc
    exact hc
  refine ⟨fun p hp => ?_, ?_, fun n p hn => ?_⟩
  · exact (List.mem_append.1 hp).elim (h.fresh p) fun hm => (hnew p hm).1
  · rw [List.map_append]
    refine List.nodup_append.2 ⟨h.distinct, hq.distinct, ?_⟩
    intro a ha b hb hab
    obtain ⟨q, hm, rfl⟩ := List.mem_map.1 hb
    exact (hnew q hm).2 (hab ▸ ha)
  · by_cases hlt : n < ps.length
    · rw [List.getElem?_append_left hlt] at hn
      rw [List.take_append_of_le_length (Nat.le_of_lt hlt)]
      exact h.inits n p hn
    · have hle : ps.length ≤ n := Nat.le_of_not_lt hlt
      rw [List.getElem?_append_right hle] at hn
      rw [List.take_append, List.take_of_length_le hle, after_append]
      exact hq.inits _ p hn

/-- A plugin that comes in does not halt. -/
theorem Welcomes.not_halts (h : x.Welcomes cfg (ps ++ p :: qs)) (extra : List (Plugin σ ν))
    (e : PluginError) : ¬ (x.after cfg ps).Halts cfg (.ok p) extra e := by
  intro hh
  cases hh with
  | taken _ hc =>
    rcases (contains_after _ _ _ _).1 hc with hc | hc
    · rw [h.fresh p (by simp)] at hc
      cases hc
    · have hd := h.distinct
      rw [List.map_append, List.map_cons, List.nodup_middle, List.nodup_cons] at hd
      exact hd.1 (List.mem_append_left _ hc)
  | failed _ cause _ hi =>
    have hok := h.inits ps.length p (by simp)
    rw [List.take_left, hi] at hok
    cases hok

theorem Admits.append {met more : List (Found σ ν)} {e? : Option PluginError}
    (h : x.Admits cfg met ps none) (hm : (x.after cfg ps).Admits cfg more qs e?) :
    x.Admits cfg (met ++ more) (ps ++ qs) e? := by
  cases h with
  | all _ hw =>
    cases hm with
    | all _ hw' =>
      rw [← List.map_append]
      exact .all _ (hw.append hw')
    | upTo before f extra e hw' hh =>
      rw [← List.append_assoc, ← List.append_assoc, ← List.map_append]
      exact .upTo _ f extra e (hw.append hw') (by rwa [after_append])

/-- Where something halts, something is met. -/
theorem Admits.eq_none {e? : Option PluginError} (h : x.Admits cfg [] ps e?) : e? = none := by
  generalize hmet : ([] : List (Found σ ν)) = met at h
  cases h with
  | all => rfl
  | upTo => simp at hmet

/-- Nothing halts just if all that is met comes in. -/
theorem admits_none_iff {met : List (Found σ ν)} :
    x.Admits cfg met ps none ↔ met = ps.map .ok ∧ x.Welcomes cfg ps := by
  constructor
  · intro h
    cases h with
    | all _ hw => exact ⟨rfl, hw⟩
  · rintro ⟨rfl, hw⟩
    exact .all ps hw

/-- Where all that may be met comes in, nothing halts. -/
theorem Welcomes.eq_none (h : x.Welcomes cfg qs) {met rest : List (Found σ ν)}
    {e? : Option PluginError} (ha : x.Admits cfg met ps e?) (hmet : qs.map .ok = met ++ rest) :
    e? = none := by
  cases ha with
  | all => rfl
  | upTo before f extra e _ hh =>
    rw [List.append_assoc] at hmet
    obtain ⟨qs₁, qs₂, rfl, hbefore, hf⟩ := List.map_eq_append_iff.1 hmet
    obtain ⟨p, after, rfl, rfl, -⟩ := List.map_eq_cons_iff.1 hf
    obtain rfl : qs₁ = before := List.map_injective_iff.2 (fun _ _ => Except.ok.inj) hbefore
    exact absurd hh (h.not_halts extra e)

end Scene

/-! ## Acts that bring in plugins -/

/-- Run from a state, the act gives a value, and leads from one dispatcher to another by registering
plugins and calling their init hooks, in order. -/
structure Brings (cfg : Config) {α : Type} (m : Act σ (Event ν) α) (s : σ) (a : α)
    (d : Dispatcher σ ν) (ps : List (Plugin σ ν)) (d' : Dispatcher σ ν) : Prop where
  value : (m s).value = a
  scene : d'.scene (m s).state = (d.scene s).after cfg ps
  calls : calls (m s).trace = ps.flatMap Dispatcher.initCalls

namespace Brings

variable {cfg : Config} {α β : Type} {m : Act σ (Event ν) α} {f : α → Act σ (Event ν) β} {s : σ}
  {a : α} {b : β} {d d' d'' : Dispatcher σ ν} {ps qs : List (Plugin σ ν)}

/-- What makes no calls brings in nothing. -/
theorem quiet (h : Performs m s a ([] : List (Step σ ν Unit))) : Brings cfg m s a d [] d :=
  ⟨h.value, congrArg d.scene h.state, h.calls⟩

theorem bind (hm : Brings cfg m s a d ps d') (hf : Brings cfg (f a) (m s).state b d' qs d'') :
    Brings cfg (m >>= f) s b d (ps ++ qs) d'' := by
  obtain ⟨rfl, hs, hc⟩ := hm
  refine ⟨hf.value, ?_, ?_⟩
  · rw [Scene.after_append, ← hs]
    exact hf.scene
  · rw [Act.run_bind, List.flatMap_append, calls_append, hc, hf.calls]

end Brings

namespace Dispatcher

variable {cfg : Config} {α : Type} {d : Dispatcher σ ν} {p : Plugin σ ν} {s : σ}

/-- A plugin with a new name is brought in by calling its init hook, if what follows only looks at
what came of it. -/
theorem brings_callInit {hook : InitHook σ ν Outcome} (hi : p.init = some hook)
    {k : Except HookError Unit × Table (Callback σ ν) → Act σ (Event ν) (α × Dispatcher σ ν)}
    {r : α} {failed : List String}
    (hk : let x := d.scene s
      ∀ s, Performs (k (x.initResult cfg p, (x.next cfg p).table)) s
        (r, ⟨d.registry.push p, (x.next cfg p).table, failed⟩) ([] : List (Step σ ν Unit))) :
    Brings cfg (callInit d.table cfg p.name hook >>= k) s
      (r, ⟨d.registry.push p, ((d.scene s).next cfg p).table, failed⟩) d [p]
      ⟨d.registry.push p, ((d.scene s).next cfg p).table, failed⟩ := by
  have hinit : (d.scene s).init cfg p = (hook cfg p.name s).run p.name d.table := by
    rw [Scene.init, hi]
    rfl
  have hvalue : (callInit d.table cfg p.name hook s).value
      = ((d.scene s).initResult cfg p, ((d.scene s).next cfg p).table) := by
    rw [Scene.initResult, Scene.next, hinit]
    rfl
  have hstate : (callInit d.table cfg p.name hook s).state = ((d.scene s).next cfg p).state := by
    rw [Scene.next, hinit]
    rfl
  have hlast := hk ((d.scene s).next cfg p).state
  refine ⟨?_, ?_, ?_⟩
  · rw [Act.run_bind, hvalue, hstate]
    exact hlast.value
  · rw [Act.run_bind, hvalue, hstate, hlast.state]
    rfl
  · rw [Act.run_bind, hvalue, hstate, calls_append, hlast.calls, calls_callInit]
    simp [initCalls, Plugin.has, hi]

/-- A plugin is registered just if its name is new, and its init hook is called then. -/
theorem brings_register (d : Dispatcher σ ν) (cfg : Config) (p : Plugin σ ν) (s : σ) :
    ∃ ps e? d', Brings cfg (d.register cfg p) s (Step.verdict () e?, d') d ps d' ∧
      (d.scene s).Admits cfg [.ok p] ps e? := by
  have hnil := Scene.welcomes_nil (d.scene s) cfg
  unfold register Registry.insert
  cases hc : d.registry.contains p.name with
  | true =>
    refine ⟨[], some (.duplicate p.name), d, ?_, .upTo [] _ [] _ hnil (.taken p hc)⟩
    exact .quiet ((Performs.log _ _ s).quiet_bind (Performs.pure _ _))
  | false =>
    cases hi : p.init with
    | none =>
      have hinit : (d.scene s).init cfg p = ⟨(.done, d.table), s, []⟩ := by
        rw [Scene.init, hi]
        rfl
      refine ⟨[p], none, ⟨d.registry.push p, d.table, d.failedInit⟩, ⟨rfl, ?_, ?_⟩, ?_⟩
      · rw [Scene.after_cons, Scene.after_nil, Scene.next, hinit]
        rfl
      · simp [initCalls, Plugin.has, hi, PluginHost.calls]
      · refine .all [p] (.singleton hc ?_)
        rw [Scene.initResult, hinit]
        rfl
    | some hook =>
      cases hr : (d.scene s).initResult cfg p with
      | error cause =>
        refine ⟨[p], some (.hook p.name .init cause), ⟨d.registry.push p, _, p.name :: d.failedInit⟩,
          brings_callInit hi fun s => ?_, .upTo [] _ [p] _ hnil (.failed p cause hc hr)⟩
        rw [hr]
        exact (Performs.log _ _ s).quiet_bind (Performs.pure _ _)
      | ok u =>
        refine ⟨[p], none, ⟨d.registry.push p, _, d.failedInit⟩, brings_callInit hi fun s => ?_,
          .all [p] (.singleton hc hr)⟩
        rw [hr]
        exact Performs.pure _ _

end Dispatcher

end PluginHost
