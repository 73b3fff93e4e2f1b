import PluginHost.Proofs.Dependency.Table
import PluginHost.Proofs.Plan
import PluginHost.Proofs.Registry

/-!
# Registering a plugin

The course of an init hook reaches the table only by registrations in the name of its plugin.  So
registering a plugin does one of two things:

    name taken    it is refused, whatever its hooks are, and nothing happens      (register_taken)
    name fresh    the plugin is added, its init hook is called once, the table grows by what the
                  hook asked for, and the name is kept if the hook failed         (register_fresh)
-/

namespace PluginHost

variable {σ ν ρ : Type}

/-- To the table, the course of an init hook is a list of requests. -/
theorem Setup.exists_requests (plugin : String) (course : Setup σ ν ρ) (t : Table (Callback σ ν)) :
    ∃ requests, (course.run plugin t).value.2 = t.registering plugin requests := by
  induction course generalizing t with
  | finish notes state result => exact ⟨[], rfl⟩
  | register notes request resume ih =>
    rw [Setup.run]
    cases hi : t.insert plugin request with
    | error e => exact ih (.error e) t
    | ok grown =>
      obtain ⟨requests, hr⟩ := ih (.ok grown.1.id) grown.2
      refine ⟨request :: requests, hr.trans ?_⟩
      rw [Table.registering, Table.registering, List.foldl_cons]
      congr 1
      rw [Table.apply, hi]

namespace Dispatcher

variable {d : Dispatcher σ ν} {cfg : Config} {p : Plugin σ ν} {s : σ}

/-- The init hook of a plugin fails when it is called in a state. -/
def InitFails (d : Dispatcher σ ν) (cfg : Config) (p : Plugin σ ν) (s : σ) : Prop :=
  ∃ hook cause, p.init = some hook ∧
    ((hook cfg p.name s).run p.name d.table).value.1.result = .error cause

instance (d : Dispatcher σ ν) (cfg : Config) (p : Plugin σ ν) (s : σ) :
    Decidable (d.InitFails cfg p s) :=
  decidable_of_iff
    (p.init.any fun hook =>
      !((hook cfg p.name s).run p.name d.table).value.1.result.isOk) <| by
    unfold InitFails
    cases hi : p.init with
    | none => simp
    | some hook =>
      cases hr : ((hook cfg p.name s).run p.name d.table).value.1.result with
      | error cause => simp [hr, Except.isOk, Except.toBool]
      | ok u => simp [hr, Except.isOk, Except.toBool]

/-- The call of the init hook, if the plugin has one. -/
def initCalls (p : Plugin σ ν) : List Call := if p.has .init then [.init p.name] else []

/-- A plugin was added: its init hook was called, with what came of it. -/
structure Registers (d : Dispatcher σ ν) (cfg : Config) (p : Plugin σ ν) (s : σ)
    (d' : Dispatcher σ ν) (trace : List (Event ν)) : Prop where
  registry : d'.registry = d.registry.push p
  table : ∃ requests, d'.table = d.table.registering p.name requests
  failed : ∀ name, name ∈ d'.failedInit ↔ name ∈ d.failedInit ∨ p.name = name ∧ d.InitFails cfg p s
  calls : calls trace = initCalls p

theorem register_taken (h : d.registry.Sound) (hp : p.name ∈ d.registry.names) :
    d.register cfg p = (do
      Act.log .error ("Failed to register plugin '" ++ p.name ++ "': "
        ++ (PluginError.duplicate p.name).message)
      return (.error (.duplicate p.name), d)) := by
  rw [register, h.insert_taken hp]

theorem calls_callInit (t : Table (Callback σ ν)) (cfg : Config) (name : String)
    (hook : InitHook σ ν Outcome) (s : σ) :
    calls (callInit t cfg name hook s).trace = [.init name] := by
  show calls ([.call (.init name)] ++ ([.note _] ++ (List.map Event.note _ ++ []))) = _
  rw [calls_append, calls_append, calls_append, calls_map_note]
  rfl

theorem register_fresh (h : d.registry.Sound) (hp : p.name ∉ d.registry.names) (s : σ) :
    Registers d cfg p s (d.register cfg p s).value.2 (d.register cfg p s).trace := by
  rw [register, h.insert_fresh hp]
  cases hi : p.init with
  | none =>
    have hf : ¬ d.InitFails cfg p s := by
      rintro ⟨hook, cause, hh, -⟩
      rw [hi] at hh
      cases hh
    refine ⟨rfl, ⟨[], rfl⟩, fun name => ?_, ?_⟩
    · exact ⟨.inl, fun hn => hn.elim id fun hn => absurd hn.2 hf⟩
    · simp [initCalls, Plugin.has, hi, PluginHost.calls]
  | some hook =>
    let r := (hook cfg p.name s).run p.name d.table
    have hvalue : (callInit d.table cfg p.name hook s).value = (r.value.1.result, r.value.2) := rfl
    have hcalls := calls_callInit d.table cfg p.name hook s
    have hinit : initCalls p = [.init p.name] := by simp [initCalls, Plugin.has, hi]
    have hfails : d.InitFails cfg p s ↔ ∃ cause, r.value.1.result = .error cause := by
      simp [InitFails, hi, r]
    obtain ⟨requests, htable⟩ := Setup.exists_requests p.name (hook cfg p.name s) d.table
    simp only [Act.run_bind, hvalue]
    cases hr : r.value.1.result with
    | error cause =>
      refine ⟨rfl, ⟨requests, htable⟩, fun name => ?_, ?_⟩
      · show name ∈ p.name :: d.failedInit ↔ _
        rw [List.mem_cons, hfails, hr, or_comm, eq_comm]
        simp
      · rw [hinit, calls_append, hcalls]
        rfl
    | ok u =>
      refine ⟨rfl, ⟨requests, htable⟩, fun name => ?_, ?_⟩
      · show name ∈ d.failedInit ↔ _
        rw [hfails, hr]
        simp
      · rw [hinit, calls_append, hcalls]
        rfl

end Dispatcher

end PluginHost
