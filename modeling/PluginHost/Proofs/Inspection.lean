import PluginHost.Proofs.Host

/-!
# What operators are shown

The plugins are shown with their dependencies, which are found in the table by name.  Whatever a host
does, names are taken once and all dependencies belong to registered plugins; so none is lost and none
is shown twice.

    a step of a session, of a backend, of a host keeps the dispatcher sound
                                              (sound_step, sound_serve, Sound.step, Sound.run)
    a sound dispatcher is shown completely                                     (showsEachOnce_info)
    so is that of any host after any deeds                                 (info_shows_each_once)
-/

namespace PluginHost

variable {σ ν : Type}

/-! ## What hosts do keeps dispatchers sound -/

theorem Plays.sound {α : Type} {act : Act σ (Event ν) α} {s : σ} {a : α} {d d' : Dispatcher σ ν}
    {moves : List (Move σ ν)} (h : Plays act s a d moves d') (hd : d.Sound) : d'.Sound := by
  obtain rfl := h.leads
  exact hd.play moves s

namespace Session

variable {x : Session σ ν}

/-- What is done with a transaction leaves the dispatcher as it is. -/
theorem dispatcher_onTransaction {α : Type} (x : Session σ ν) (n : Nat) (answer : α → Answer σ ν)
    (act : Transaction → Act σ (Event ν) (α × Option Transaction)) (s : σ) :
    (x.onTransaction n answer act s).value.2.dispatcher = x.dispatcher := by
  unfold onTransaction
  cases x.transaction? n with
  | none => rfl
  | some tx => rfl

theorem sound_step (h : x.dispatcher.Sound) (cfg : Config) (o : Operation σ ν) (s : σ) :
    (x.step cfg o s).value.2.dispatcher.Sound := by
  cases o with
  | register p => exact h.register cfg p s
  | registerAll ps =>
    obtain ⟨r, d', n, hp⟩ := Dispatcher.plays_registerAll cfg x.dispatcher ps s
    have hd' := hp.sound h
    simp only [step, Act.run_bind, hp.value]
    exact hd'
  | loadAll disk paths =>
    obtain ⟨r, d', n, loaded, -, hp⟩ := Dispatcher.plays_loadAll cfg x.dispatcher disk paths s
    have hd' := hp.sound h
    simp only [step, Act.run_bind, hp.value]
    exact hd'
  | registerFor plugin request => exact h.registerFor plugin request s
  | teardown => exact Dispatcher.sound_forgotten x.dispatcher
  | begin n | complete n | finish n | abort n | commit n | validate n =>
    rw [step, dispatcher_onTransaction]
    exact h
  | invoke id op view =>
    simp only [step]
    cases x.dispatcher.table.get? id with
    | none => exact h
    | some dep => exact h
  | _ => exact h

end Session

theorem Backend.sound_serve {b : Backend σ ν} (h : b.manager.dispatcher.Sound) (c : Command σ ν)
    (s : σ) : (b.serve c s).value.2.manager.dispatcher.Sound := by
  obtain ⟨b', moves, -, hl⟩ := b.leads_command s c
  have hserve : (b.serve c s).value.2 = b' := by
    rw [← hl.plays.value, b.command_eq, b.tell_eq]
    rfl
  rw [hserve]
  exact hl.plays.sound h

namespace Host

/-- A host is sound if the dispatcher of its plugin manager is. -/
def Sound (h : Host σ ν) : Prop := h.backend.manager.dispatcher.Sound

theorem sound_new (cfg : Config) : (new cfg : Host σ ν).Sound := Dispatcher.sound_empty

theorem Sound.step {h : Host σ ν} (hs : h.Sound) (deed : Deed σ ν) (s : σ) :
    (h.step deed s).value.2.Sound := by
  cases deed with
  | tell c => exact Backend.sound_serve hs c s
  | session o => exact Session.sound_step (x := h.session) hs h.backend.config o s
  | info => exact hs

theorem Sound.run {h : Host σ ν} (hs : h.Sound) (deeds : List (Deed σ ν)) (s : σ) :
    (h.run deeds s).value.2.Sound := by
  induction deeds generalizing h s with
  | nil => exact hs
  | cons deed deeds ih => exact ih (hs.step deed s) _

end Host

/-! ## What is shown -/

namespace Manager

/-- Plugins are shown as they are registered, each once and in order, and with them all dependencies:
each once, under the plugin that owns it, in the order of registration there. -/
structure ShowsEachOnce (m : Manager σ ν) (shown : List PluginInfo) : Prop where
  plugins : shown.map PluginInfo.name = m.dispatcher.registry.names
  distinct : (shown.map PluginInfo.name).Nodup
  all : (shown.flatMap PluginInfo.dependencies).Perm
    (m.dispatcher.table.entries.map dependencyInfo)
  once : ((shown.flatMap PluginInfo.dependencies).map DependencyInfo.id).Nodup
  owned : ∀ i ∈ shown, i.dependencies =
    (m.dispatcher.table.entries.filter fun d => d.plugin = i.name).map dependencyInfo
  ordered : ∀ i ∈ shown, i.dependencies.Pairwise fun a b => a.id < b.id

variable {m : Manager σ ν}

/-- The dependencies of all plugins are all dependencies. -/
theorem dependencies_info_perm (h : m.dispatcher.Sound) :
    (m.info.flatMap PluginInfo.dependencies).Perm
      (m.dispatcher.table.entries.map dependencyInfo) := by
  have hnames : m.dispatcher.registry.plugins.Pairwise fun p q => p.name ≠ q.name :=
    List.pairwise_map.1 h.registry.names
  have hperm := Table.perm_flatMap_filter Dependency.plugin Plugin.name
    m.dispatcher.registry.plugins hnames m.dispatcher.table.entries (by
      intro d hd
      obtain ⟨p, hp, hn⟩ := List.mem_map.1 (h.owners d hd)
      exact ⟨p, hp, hn.symm⟩)
  have hshown : m.info.flatMap PluginInfo.dependencies =
      (m.dispatcher.registry.plugins.flatMap fun p =>
        m.dispatcher.table.entries.filter fun d => d.plugin = p.name).map dependencyInfo := by
    rw [info, List.flatMap_map, List.map_flatMap]
    rfl
  rw [hshown]
  exact (hperm.map dependencyInfo).symm

theorem showsEachOnce_info (h : m.dispatcher.Sound) : m.ShowsEachOnce m.info := by
  have hplugins : m.info.map PluginInfo.name = m.dispatcher.registry.names := by
    rw [info, List.map_map]
    rfl
  have howned : ∀ i ∈ m.info, i.dependencies =
      (m.dispatcher.table.entries.filter fun d => d.plugin = i.name).map dependencyInfo := by
    intro i hi
    obtain ⟨p, -, rfl⟩ := List.mem_map.1 hi
    rfl
  have hids : ((m.dispatcher.table.entries.map dependencyInfo).map DependencyInfo.id).Nodup := by
    rw [List.map_map, List.Nodup, List.pairwise_map]
    exact h.table.ids.imp Nat.ne_of_lt
  refine ⟨hplugins, hplugins ▸ h.registry.names, dependencies_info_perm h, ?_, howned, ?_⟩
  · exact ((dependencies_info_perm h).map DependencyInfo.id).nodup_iff.2 hids
  · intro i hi
    rw [howned i hi, List.pairwise_map]
    exact h.table.ids.filter _

end Manager

/-- **Every dependency is shown exactly once**, whatever a host did: by its backend, its plugin manager
or the dispatcher itself, with plugins of any kind. -/
theorem Host.info_shows_each_once (cfg : Config) (deeds : List (Deed σ ν)) (s : σ) :
    let m := ((new cfg).run deeds s).value.2.backend.manager
    m.ShowsEachOnce m.info :=
  Manager.showsEachOnce_info ((sound_new cfg).run deeds s)

end PluginHost
