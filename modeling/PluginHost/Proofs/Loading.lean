import PluginHost.Proofs.Dispatcher.Admission
import PluginHost.Proofs.Manager

/-!
# Loading the configured directories

The directories are loaded in order, and of each its files: a file is opened, its plugin registered
and its init hook called, before the next file is opened or the next directory listed.

    l.agenda disk s           what is found in all directories, as they are in a state
    l.trail disk cfg dirs x   what is met on the way, each directory and file as it is by then

    if no init hook changes what the loader sees, the trail is the agenda          (trail_eq_agenda)
    of the trail, what comes in is registered, up to the first that halts, and no file behind that
    one makes a difference                                                            (takes_setUp)
    loading succeeds just if all of the agenda comes in                              (loads_agenda)
-/

namespace PluginHost

variable {σ ν : Type}

/-- The plugins among what is found. -/
def Found.plugins (met : List (Found σ ν)) : List (Plugin σ ν) := met.filterMap Except.toOption

/-- The file that what is found comes from. -/
def Found.path? : Found σ ν → Option Path
  | .ok p => p.path
  | .error (.load _ path _) => some path
  | .error _ => none

theorem Found.plugins_map_ok (ps : List (Plugin σ ν)) : plugins (ps.map .ok) = ps := by
  rw [plugins, List.filterMap_map]
  exact List.filterMap_some

theorem Found.mem_plugins {met : List (Found σ ν)} {p : Plugin σ ν} (h : p ∈ plugins met) :
    .ok p ∈ met := by
  obtain ⟨f, hf, hp⟩ := List.mem_filterMap.1 h
  cases f with
  | error e => cases hp
  | ok q =>
    cases hp
    exact hf

namespace Loader

/-! ## What is found -/

/-- What the file at a path gives in a state. -/
def meet (disk : Disk σ ν) (s : σ) (path : Path) : Found σ ν :=
  let name := (pluginName? path).getD path.display
  match disk.load s path with
  | .error cause => .error (.load name path cause)
  | .ok lib => .ok (Plugin.ofLibrary name path lib)

/-- The plugin files of a directory in a state, in load order. -/
def files (l : Loader) (disk : Disk σ ν) (s : σ) (dir : Path) : Except PluginError (List Path) :=
  match disk.list s dir with
  | .error cause => .error (.directory dir cause)
  | .ok entries => .ok (l.select dir entries)

/-- What is found in a directory, as it and its files are in a state. -/
def found (l : Loader) (disk : Disk σ ν) (s : σ) (dir : Path) : List (Found σ ν) :=
  match l.files disk s dir with
  | .error e => [.error e]
  | .ok paths => paths.map (meet disk s)

/-- What is found in all directories, as they are in a state. -/
def agenda (l : Loader) (disk : Disk σ ν) (s : σ) : List (Found σ ν) :=
  l.dirs.flatMap (l.found disk s)

theorem path?_meet (disk : Disk σ ν) (s : σ) (path : Path) :
    (meet disk s path).path? = some path := by
  unfold meet
  cases disk.load s path <;> rfl

theorem value_load (disk : Disk σ ν) (path : Path) (s : σ) :
    (load disk path s).value = meet disk s path := by
  simp only [load, meet, Act.run_bind, Act.get]
  cases disk.load s path <;> rfl

theorem value_discoverDir (l : Loader) (disk : Disk σ ν) (dir : Path) (s : σ) :
    (l.discoverDir disk dir s).value = l.files disk s dir := by
  simp only [discoverDir, files, Act.run_bind, Act.get]
  cases disk.list s dir <;> rfl

theorem state_discoverDir (l : Loader) (disk : Disk σ ν) (dir : Path) (s : σ) :
    (l.discoverDir disk dir s).state = s := by
  obtain ⟨r, hr⟩ := l.performs_discoverDir disk dir s
  exact hr.state

/-- If directories can all be read, what is found in them are their files; if not, an error is
among it. -/
theorem discoverDirs_cases (l : Loader) (disk : Disk σ ν) (dirs : List Path) (s : σ) :
    (∃ paths, (l.discoverDirs disk dirs s).value = .ok paths ∧
      dirs.flatMap (l.found disk s) = paths.map (meet disk s)) ∨
    ∃ e, (l.discoverDirs disk dirs s).value = .error e ∧
      .error e ∈ dirs.flatMap (l.found disk s) := by
  induction dirs with
  | nil => exact .inl ⟨[], rfl, rfl⟩
  | cons dir dirs ih =>
    rw [discoverDirs, Act.run_bind, value_discoverDir, state_discoverDir, List.flatMap_cons]
    cases hf : l.files disk s dir with
    | error e =>
      have hhere : l.found disk s dir = [.error e] := by rw [found, hf]
      exact .inr ⟨e, rfl, by simp [hhere]⟩
    | ok here =>
      have hhere : l.found disk s dir = here.map (meet disk s) := by rw [found, hf]
      simp only [Act.run_bind]
      rcases ih with ⟨paths, hv, hp⟩ | ⟨e, hv, he⟩
      · refine .inl ⟨here ++ paths, ?_, ?_⟩
        · rw [hv]
          rfl
        · rw [hhere, hp, List.map_append]
      · refine .inr ⟨e, ?_, List.mem_append_right _ he⟩
        rw [hv]
        rfl

/-- All that is found is plugins just if all directories can be read and all files loaded. -/
theorem agenda_eq_map_ok_iff (l : Loader) (disk : Disk σ ν) (s : σ) (ps : List (Plugin σ ν)) :
    l.agenda disk s = ps.map .ok ↔
      ∃ paths, (l.discover disk s).value = .ok paths ∧ paths.map (meet disk s) = ps.map .ok := by
  rw [agenda, discover]
  rcases l.discoverDirs_cases disk l.dirs s with ⟨paths, hv, hp⟩ | ⟨e, hv, he⟩
  · simp [hv, hp]
  · refine iff_of_false (fun h => ?_) (by simp [hv])
    rw [h] at he
    simp at he

/-! ## What is met on the way -/

/-- What is met at files one after another, if all plugins that are met come in. -/
def trailOf (disk : Disk σ ν) (cfg : Config) : List Path → Scene σ ν → List (Found σ ν)
  | [], _ => []
  | path :: paths, x =>
    let f := meet disk x.state path
    f :: trailOf disk cfg paths (x.after cfg (Found.plugins [f]))

/-- What is met in a directory. -/
def trailIn (l : Loader) (disk : Disk σ ν) (cfg : Config) (dir : Path) (x : Scene σ ν) :
    List (Found σ ν) :=
  match l.files disk x.state dir with
  | .error e => [.error e]
  | .ok paths => trailOf disk cfg paths x

/-- What is met in directories one after another. -/
def trail (l : Loader) (disk : Disk σ ν) (cfg : Config) : List Path → Scene σ ν → List (Found σ ν)
  | [], _ => []
  | dir :: dirs, x =>
    let here := l.trailIn disk cfg dir x
    here ++ l.trail disk cfg dirs (x.after cfg (Found.plugins here))

/-- A loader sees the same directories and plugin files in two states. -/
structure SeesSame (l : Loader) (disk : Disk σ ν) (s s' : σ) : Prop where
  list : ∀ dir ∈ l.dirs, disk.list s' dir = disk.list s dir
  load : ∀ dir ∈ l.dirs, ∀ paths, l.files disk s dir = .ok paths →
    ∀ path ∈ paths, disk.load s' path = disk.load s path

/-- The init hooks of the plugins that are found leave what the loader sees as it is. -/
def Undisturbed (l : Loader) (disk : Disk σ ν) (cfg : Config) (s : σ) : Prop :=
  ∀ p, .ok p ∈ l.agenda disk s → ∀ x : Scene σ ν,
    l.SeesSame disk s x.state → l.SeesSame disk s (x.init cfg p).state

variable {l : Loader} {disk : Disk σ ν} {cfg : Config} {s : σ} {x : Scene σ ν}

theorem SeesSame.refl (l : Loader) (disk : Disk σ ν) (s : σ) : l.SeesSame disk s s :=
  ⟨fun _ _ => rfl, fun _ _ _ _ _ _ => rfl⟩

theorem Undisturbed.seesSame_after (h : l.Undisturbed disk cfg s) {met : List (Found σ ν)}
    (hmet : ∀ f ∈ met, f ∈ l.agenda disk s) (hx : l.SeesSame disk s x.state) :
    l.SeesSame disk s (x.after cfg (Found.plugins met)).state := by
  have hps : ∀ p ∈ Found.plugins met, .ok p ∈ l.agenda disk s := fun p hp =>
    hmet _ (Found.mem_plugins hp)
  revert hps
  generalize Found.plugins met = ps
  intro hps
  induction ps generalizing x with
  | nil => exact hx
  | cons p ps ih =>
    exact ih (h p (hps p List.mem_cons_self) x hx) fun q hq => hps q (List.mem_cons_of_mem _ hq)

theorem Undisturbed.trailOf_eq (h : l.Undisturbed disk cfg s) (hx : l.SeesSame disk s x.state)
    {dir : Path} (hdir : dir ∈ l.dirs) {all paths : List Path}
    (hall : l.files disk s dir = .ok all) (hpaths : paths ⊆ all) :
    trailOf disk cfg paths x = paths.map (meet disk s) := by
  induction paths generalizing x with
  | nil => rfl
  | cons path paths ih =>
    have hmem : path ∈ all := hpaths List.mem_cons_self
    have hmeet : meet disk x.state path = meet disk s path := by
      rw [meet, meet, hx.load dir hdir all hall path hmem]
    have hfound : meet disk s path ∈ l.agenda disk s := by
      refine List.mem_flatMap.2 ⟨dir, hdir, ?_⟩
      rw [found, hall]
      exact List.mem_map_of_mem hmem
    rw [trailOf, hmeet, List.map_cons, ih (h.seesSame_after (by simpa using hfound) hx)
      fun p hp => hpaths (List.mem_cons_of_mem _ hp)]

theorem Undisturbed.trailIn_eq (h : l.Undisturbed disk cfg s) (hx : l.SeesSame disk s x.state)
    {dir : Path} (hdir : dir ∈ l.dirs) : l.trailIn disk cfg dir x = l.found disk s dir := by
  have hfiles : l.files disk x.state dir = l.files disk s dir := by
    rw [files, files, hx.list dir hdir]
  rw [trailIn, found, hfiles]
  cases hf : l.files disk s dir with
  | error e => rfl
  | ok paths => exact h.trailOf_eq hx hdir hf (List.Subset.refl _)

theorem Undisturbed.trail_eq (h : l.Undisturbed disk cfg s) (hx : l.SeesSame disk s x.state)
    {dirs : List Path} (hdirs : dirs ⊆ l.dirs) :
    l.trail disk cfg dirs x = dirs.flatMap (l.found disk s) := by
  induction dirs generalizing x with
  | nil => rfl
  | cons dir dirs ih =>
    have hdir : dir ∈ l.dirs := hdirs List.mem_cons_self
    have hfound : ∀ f ∈ l.found disk s dir, f ∈ l.agenda disk s := fun f hf =>
      List.mem_flatMap.2 ⟨dir, hdir, hf⟩
    rw [trail, h.trailIn_eq hx hdir, List.flatMap_cons, ih (h.seesSame_after hfound hx)
      fun d hd => hdirs (List.mem_cons_of_mem _ hd)]

/-- What is met on the way is what was found beforehand. -/
theorem Undisturbed.trail_eq_agenda (h : l.Undisturbed disk cfg s) (hx : x.state = s) :
    l.trail disk cfg l.dirs x = l.agenda disk s :=
  h.trail_eq (hx ▸ .refl l disk x.state) (List.Subset.refl _)

end Loader

/-! ## Acts that take in what is met -/

/-- Disks that list the same, and give the same at the files that were met. -/
structure Disk.Agrees (disk disk' : Disk σ ν) (met : List (Found σ ν)) : Prop where
  list : disk'.list = disk.list
  load : ∀ f ∈ met, ∀ path, Found.path? f = some path → ∀ s, disk'.load s path = disk.load s path

/-- Run from a state on a disk, the act gives a value, and of what is met on a trail it takes in all,
or all up to the first that halts; files behind that make no difference. -/
def Takes (cfg : Config) {α : Type} (m : Disk σ ν → Act σ (Event ν) α) (disk : Disk σ ν) (s : σ)
    (a : α) (d : Dispatcher σ ν) (trail : List (Found σ ν)) (e? : Option PluginError)
    (d' : Dispatcher σ ν) : Prop :=
  ∃ met rest ps, trail = met ++ rest ∧ (e? = none → rest = []) ∧
    Brings cfg (m disk) s a d ps d' ∧ (d.scene s).Admits cfg met ps e? ∧
    ∀ disk', disk.Agrees disk' met → m disk' s = m disk s

namespace Takes

variable {cfg : Config} {α β : Type} {m : Disk σ ν → Act σ (Event ν) α} {disk : Disk σ ν} {s : σ}
  {a : α} {b : β} {d d' d'' : Dispatcher σ ν} {trail more : List (Found σ ν)}
  {e? : Option PluginError} {e : PluginError}

/-- What makes no calls takes in nothing. -/
theorem quiet {m : Act σ (Event ν) α} (h : Performs m s a ([] : List (Step σ ν Unit))) :
    Takes cfg (fun _ => m) disk s a d [] none d :=
  ⟨[], [], [], rfl, fun _ => rfl, .quiet h, .all [] (Scene.welcomes_nil _ _), fun _ _ => rfl⟩

/-- What makes no calls stops at an obstacle. -/
theorem obstacle {m : Act σ (Event ν) α} (h : Performs m s a ([] : List (Step σ ν Unit)))
    (e : PluginError) : Takes cfg (fun _ => m) disk s a d [.error e] (some e) d :=
  ⟨[.error e], [], [], rfl, nofun, .quiet h,
    .upTo [] _ [] e (Scene.welcomes_nil _ _) (.obstacle e), fun _ _ => rfl⟩

theorem register (d : Dispatcher σ ν) (cfg : Config) (p : Plugin σ ν) (disk : Disk σ ν) (s : σ) :
    ∃ e? d', Takes cfg (fun _ => d.register cfg p) disk s (Step.verdict () e?, d') d [.ok p] e?
      d' := by
  obtain ⟨ps, e?, d', hb, ha⟩ := d.brings_register cfg p s
  exact ⟨e?, d', [.ok p], [], ps, rfl, fun _ => rfl, hb, ha, fun _ _ => rfl⟩

/-- Nothing is taken in behind what halts. -/
theorem stop (h : Takes cfg m disk s a d trail (some e) d') (more : List (Found σ ν)) :
    Takes cfg m disk s a d (trail ++ more) (some e) d' := by
  obtain ⟨met, rest, ps, rfl, -, h⟩ := h
  exact ⟨met, rest ++ more, ps, List.append_assoc _ _ _, nofun, h⟩

/-- If all is taken in, it leads to the dispatcher. -/
theorem scene_eq (h : Takes cfg m disk s a d trail none d') :
    (d.scene s).after cfg (Found.plugins trail) = d'.scene (m disk s).state := by
  obtain ⟨met, rest, ps, rfl, hrest, hb, ha, -⟩ := h
  obtain ⟨rfl, -⟩ := Scene.admits_none_iff.1 ha
  rw [hrest rfl, List.append_nil, Found.plugins_map_ok, hb.scene]

theorem bind {f : α → Disk σ ν → Act σ (Event ν) β} (hm : Takes cfg m disk s a d trail none d')
    (hf : Takes cfg (f a) disk (m disk s).state b d' more e? d'') :
    Takes cfg (fun disk => m disk >>= fun a => f a disk) disk s b d (trail ++ more) e? d'' := by
  obtain ⟨met, rest, ps, rfl, hrest, hb, ha, hblind⟩ := hm
  obtain ⟨met', rest', ps', rfl, hrest', hb', ha', hblind'⟩ := hf
  obtain rfl := hrest rfl
  refine ⟨met ++ met', rest', ps ++ ps', ?_, hrest', hb.bind hb', ?_, fun disk' h => ?_⟩
  · rw [List.append_nil, List.append_assoc]
  · rw [hb.scene] at ha'
    exact ha.append ha'
  · have hfirst := hblind disk' ⟨h.list, fun f hf => h.load f (List.mem_append_left _ hf)⟩
    have hnext := hblind' disk' ⟨h.list, fun f hf => h.load f (List.mem_append_right _ hf)⟩
    show (m disk' >>= fun a => f a disk') s = (m disk >>= fun a => f a disk) s
    rw [Act.run_bind, Act.run_bind, hfirst, hb.value, hnext]

/-- What comes last, makes no calls and looks at no disk. -/
theorem bind_quiet {f : α → Disk σ ν → Act σ (Event ν) β} {k : Act σ (Event ν) β}
    (hm : Takes cfg m disk s a d trail e? d') (hf : ∀ disk, f a disk = k)
    (hk : Performs k (m disk s).state b ([] : List (Step σ ν Unit))) :
    Takes cfg (fun disk => m disk >>= fun a => f a disk) disk s b d trail e? d' := by
  obtain ⟨met, rest, ps, rfl, hrest, hb, ha, hblind⟩ := hm
  refine ⟨met, rest, ps, rfl, hrest, ?_, ha, fun disk' h => ?_⟩
  · have h := hb.bind (f := fun a => f a disk) (.quiet (hf disk ▸ hk))
    rwa [List.append_nil] at h
  · show (m disk' >>= fun a => f a disk') s = (m disk >>= fun a => f a disk) s
    rw [Act.run_bind, Act.run_bind, hblind disk' h, hb.value, hf, hf]

/-- What comes first, makes no calls, and looks only at what is met. -/
theorem quiet_bind {f : α → Disk σ ν → Act σ (Event ν) β}
    (hm : Performs (m disk) s a ([] : List (Step σ ν Unit)))
    (hlook : ∀ disk' met, met <+: trail → (met = [] → trail = []) → disk.Agrees disk' met →
      m disk' s = m disk s)
    (hf : Takes cfg (f a) disk s b d trail e? d') :
    Takes cfg (fun disk => m disk >>= fun a => f a disk) disk s b d trail e? d' := by
  obtain ⟨met, rest, ps, rfl, hrest, hb, ha, hblind⟩ := hf
  have hs : (m disk s).state = s := hm.state
  refine ⟨met, rest, ps, rfl, hrest, ?_, ha, fun disk' h => ?_⟩
  · exact (Brings.quiet hm).bind (hs.symm ▸ hb)
  · -- where nothing is met, nothing halts, so that there is nothing behind either
    have hnil : met = [] → met ++ rest = [] := by
      rintro rfl
      exact hrest ha.eq_none
    have hfirst := hlook disk' met (List.prefix_append _ _) hnil h
    show (m disk' >>= fun a => f a disk') s = (m disk >>= fun a => f a disk) s
    rw [Act.run_bind, Act.run_bind, hfirst, hm.value, hs, hblind disk' h]

theorem log {m : Disk σ ν → Act σ (Event ν) α} (level : Log.Level) (text : String)
    (h : Takes cfg m disk s a d trail e? d') :
    Takes cfg (fun disk => Act.log level text >>= fun _ => m disk) disk s a d trail e? d' :=
  quiet_bind (m := fun _ => Act.log level text) (f := fun _ => m) (Performs.log _ _ s)
    (fun _ _ _ _ _ => rfl) h

/-- A file is opened before what it gives is met. -/
theorem load {path : Path} {f : Found σ ν} (hf : Loader.meet disk s path = f)
    {k : Found σ ν → Disk σ ν → Act σ (Event ν) β}
    (h : Takes cfg (k f) disk s b d (f :: more) e? d') :
    Takes cfg (fun disk => Loader.load disk path >>= fun f => k f disk) disk s b d (f :: more) e?
      d' := by
  obtain ⟨r, hr, -⟩ := Loader.performs_load disk path s
  obtain rfl : f = r := by rw [← hf, ← Loader.value_load, hr.value]
  refine quiet_bind (m := fun disk => Loader.load disk path) hr (fun disk' met hmet hnil ha => ?_) h
  obtain ⟨met, rfl⟩ : ∃ met', met = f :: met' := by
    cases met with
    | nil => cases hnil rfl
    | cons g met => exact ⟨met, by rw [(List.cons_prefix_cons.1 hmet).1]⟩
  have hload := ha.load f List.mem_cons_self path (hf ▸ Loader.path?_meet disk s path) s
  simp only [Loader.load, Act.run_bind, Act.get, hload]

/-- A directory is listed before its files are met. -/
theorem discoverDir {l : Loader} {dir : Path} {r : Except PluginError (List Path)}
    (hr : l.files disk s dir = r) {k : Except PluginError (List Path) → Disk σ ν → Act σ (Event ν) β}
    (h : Takes cfg (k r) disk s b d trail e? d') :
    Takes cfg (fun disk => l.discoverDir disk dir >>= fun r => k r disk) disk s b d trail e? d' := by
  obtain ⟨r', hp⟩ := l.performs_discoverDir disk dir s
  obtain rfl : r = r' := by rw [← hr, ← Loader.value_discoverDir, hp.value]
  refine quiet_bind (m := fun disk => l.discoverDir disk dir) hp (fun disk' met _ _ ha => ?_) h
  simp only [Loader.discoverDir, ha.list]

end Takes

/-! ## Loading takes in what is met -/

namespace Dispatcher

theorem takes_loadEach (d : Dispatcher σ ν) (disk : Disk σ ν) (cfg : Config) (paths : List Path)
    (s : σ) : ∃ e? d', Takes cfg (fun disk => d.loadEach disk cfg paths) disk s
      (Step.verdict () e?, d') d (Loader.trailOf disk cfg paths (d.scene s)) e? d' := by
  induction paths generalizing d s with
  | nil => exact ⟨none, d, .quiet (Performs.pure _ _)⟩
  | cons path paths ih =>
    simp only [loadEach, Loader.trailOf, scene_state]
    cases hf : Loader.meet disk s path with
    | error e =>
      have hfirst : Takes cfg (fun _ => Act.log .error e.message) disk s () d [.error e] (some e) d :=
        .obstacle (Performs.log _ _ s) e
      refine ⟨some e, d, .load hf (.stop (?_ : Takes _ _ _ _ _ _ [.error e] _ _) _)⟩
      exact hfirst.bind_quiet (fun _ => rfl) (Performs.pure _ _)
    | ok p =>
      obtain ⟨e?, d₁, h⟩ := Takes.register d cfg p disk s
      cases e? with
      | some e =>
        refine ⟨some e, d₁, .load hf (.stop (?_ : Takes _ _ _ _ _ _ [.ok p] _ _) _)⟩
        exact h.bind_quiet (fun _ => rfl) (Performs.pure _ _)
      | none =>
        -- the next file is met on the scene that the plugin leaves
        obtain ⟨e?, d', h'⟩ := ih d₁ (d.register cfg p s).state
        rw [← h.scene_eq] at h'
        exact ⟨e?, d', .load hf (.bind h h')⟩

theorem takes_loadAll (d : Dispatcher σ ν) (disk : Disk σ ν) (cfg : Config) (paths : List Path)
    (s : σ) : ∃ n e? d', Takes cfg (fun disk => d.loadAll disk cfg paths) disk s
      (Step.verdict n e?, d') d (Loader.trailOf disk cfg paths (d.scene s)) e? d' := by
  obtain ⟨e?, d', h⟩ := d.takes_loadEach disk cfg paths s
  unfold loadAll
  cases e? with
  | some e => exact ⟨0, some e, d', h.bind_quiet (fun _ => rfl) (Performs.pure _ _)⟩
  | none =>
    exact ⟨d'.registry.size, none, d', h.bind_quiet (fun _ => rfl)
      ((Performs.log _ _ _).quiet_bind (Performs.pure _ _))⟩

end Dispatcher

namespace Manager

variable (m : Manager σ ν) (disk : Disk σ ν) (cfg : Config)

theorem takes_loadDir (dir : Path) (s : σ) :
    ∃ n e? d', Takes cfg (fun disk => m.loadDir disk cfg dir) disk s
      (Step.verdict n e?, m.within d') m.dispatcher
      (m.loader.trailIn disk cfg dir (m.dispatcher.scene s)) e? d' := by
  unfold loadDir Loader.trailIn
  rw [Dispatcher.scene_state]
  cases hf : m.loader.files disk s dir with
  | error e => exact ⟨0, some e, m.dispatcher, .discoverDir hf (.obstacle (Performs.pure _ _) e)⟩
  | ok paths =>
    obtain ⟨n, e?, d', h⟩ := m.dispatcher.takes_loadAll disk cfg paths s
    refine ⟨n, e?, d', .discoverDir hf (.log _ _ ?_)⟩
    exact h.bind_quiet (fun _ => rfl) (Performs.pure _ _)

theorem takes_loadDirs (total : Nat) (dirs : List Path) (s : σ) :
    ∃ n e? d', Takes cfg (fun disk => m.loadDirs disk cfg total dirs) disk s
      (Step.verdict n e?, m.within d') m.dispatcher
      (m.loader.trail disk cfg dirs (m.dispatcher.scene s)) e? d' := by
  induction dirs generalizing m total s with
  | nil => exact ⟨total, none, m.dispatcher, .quiet (Performs.pure _ _)⟩
  | cons dir dirs ih =>
    obtain ⟨n, e?, d₁, h⟩ := m.takes_loadDir disk cfg dir s
    simp only [loadDirs, Loader.trail]
    cases e? with
    | some e => exact ⟨0, some e, d₁, .stop (h.bind_quiet (fun _ => rfl) (Performs.pure _ _)) _⟩
    | none =>
      obtain ⟨n, e?, d', h'⟩ := ih (m.within d₁) n (m.loadDir disk cfg dir s).state
      have hscene : (m.within d₁).dispatcher.scene (m.loadDir disk cfg dir s).state
        = d₁.scene (m.loadDir disk cfg dir s).state := rfl
      rw [hscene, ← h.scene_eq] at h'
      exact ⟨n, e?, d', .bind h h'⟩

/-- Setting up takes in what is met in the directories. -/
theorem takes_setUp (s : σ) :
    ∃ e? d', Takes cfg (fun disk => m.setUp disk cfg) disk s (Step.verdict () e?, m.within d')
      m.dispatcher (m.loader.trail disk cfg m.loader.dirs (m.dispatcher.scene s)) e? d' := by
  obtain ⟨n, e?, d', h⟩ := m.takes_loadDirs disk cfg 0 m.loader.dirs s
  unfold setUp
  cases e? with
  | some e =>
    exact ⟨some e, d', .log _ _ (h.bind_quiet (fun _ => rfl) (Performs.pure _ _))⟩
  | none =>
    exact ⟨none, d', .log _ _ (h.bind_quiet (fun _ => rfl)
      ((Performs.log _ _ _).quiet_bind (Performs.pure _ _)))⟩

variable {disk cfg}

/-- Loading the configured directories, if no init hook disturbs them: all goes well just if all
directories can be read, all files loaded, all names are new and no init hook fails.  If not, what is
found is registered up to the first that halts, and files behind that are never opened. -/
theorem loads_agenda (d : Dispatcher σ ν) (args : List String) {s : σ}
    (h : (Loader.ofConfig cfg).Undisturbed disk cfg s) :
    let l := Loader.ofConfig cfg
    let m : Manager σ ν := ⟨l, d, args⟩
    let run := m.setUp disk cfg s
    let x := d.scene s
    let agenda := (cfg.systemDir.toList ++ [cfg.backendDir]).flatMap (l.found disk s)
    (run.value.1 = .ok () ↔ ∃ paths ps, (l.discover disk s).value = .ok paths ∧
      paths.map (Loader.meet disk s) = ps.map .ok ∧ x.Welcomes cfg ps) ∧
    ∃ arrivals : List (Plugin σ ν),
      run.value.2.dispatcher.registry.plugins = d.registry.plugins ++ arrivals ∧
      run.value.2.dispatcher.scene run.state = x.after cfg arrivals ∧
      calls run.trace = arrivals.flatMap Dispatcher.initCalls ∧
      (∀ n p, arrivals[n]? = some p → ∃ requests, (x.after cfg (arrivals.take (n + 1))).table
        = (x.after cfg (arrivals.take n)).table.registering p.name requests) ∧
      (run.value.1 = .ok () → ∃ paths, (l.discover disk s).value = .ok paths ∧
        paths.map (Loader.meet disk s) = arrivals.map .ok) ∧
      ∀ e, run.value.1 = .error e → ∃ before f later extra,
        agenda = before.map .ok ++ f :: later ∧ arrivals = before ++ extra ∧
        x.Welcomes cfg before ∧ (x.after cfg before).Halts cfg f extra e ∧
        ∀ disk', disk.Agrees disk' (before.map .ok ++ [f]) → m.setUp disk' cfg s = run := by
  intro l m run x agenda
  obtain ⟨e?, d', met, rest, arrivals, htrail, hrest, hb, ha, hblind⟩ := m.takes_setUp disk cfg s
  have hagenda : l.agenda disk s = met ++ rest := (h.trail_eq_agenda rfl).symm.trans htrail
  have hvalue : run.value = (Step.verdict () e?, m.within d') := hb.value
  have hscene : run.value.2.dispatcher.scene run.state = x.after cfg arrivals := by
    rw [hvalue]
    exact hb.scene
  have hall : e? = none → l.agenda disk s = arrivals.map .ok ∧ x.Welcomes cfg arrivals := by
    rintro rfl
    obtain ⟨rfl, hw⟩ := Scene.admits_none_iff.1 ha
    exact ⟨by rw [hagenda, hrest rfl, List.append_nil], hw⟩
  have hok : run.value.1 = .ok () ↔ e? = none := by
    rw [hvalue]
    cases e? <;> simp [Step.verdict]
  refine ⟨hok.trans ⟨fun he => ?_, ?_⟩, arrivals, ?_, hscene, hb.calls,
    fun n p hn => Scene.table_after x cfg hn, fun hr => ?_, fun e hr => ?_⟩
  · obtain ⟨paths, hv, hp⟩ := (l.agenda_eq_map_ok_iff disk s arrivals).1 (hall he).1
    exact ⟨paths, arrivals, hv, hp, (hall he).2⟩
  · -- what is met is part of the agenda, so that nothing in it halts
    rintro ⟨paths, ps, hv, hp, hw⟩
    have hfound := (l.agenda_eq_map_ok_iff disk s ps).2 ⟨paths, hv, hp⟩
    exact hw.eq_none ha (hfound.symm.trans hagenda)
  · have hplugins := congrArg (fun y : Scene σ ν => y.registry.plugins) hscene
    exact hplugins.trans (Scene.plugins_after x cfg arrivals)
  · exact (l.agenda_eq_map_ok_iff disk s arrivals).1 (hall (hok.1 hr)).1
  · -- with an error, something halted, and it is the last that was met
    rw [hvalue] at hr
    cases ha with
    | all => cases hr
    | upTo before f extra e' hw hh =>
      obtain rfl : e' = e := by simpa [Step.verdict] using hr
      refine ⟨before, f, rest, extra, ?_, rfl, hw, hh, hblind⟩
      rw [List.append_cons]
      exact hagenda

/-! ## Two directories with a plugin each -/

/-- Plugins are looked for in two directories. -/
def shelves : Config := { Config.standard with systemDir := some (Path.ofString "shared") }

/-- A library whose init hook asks for nothing and comes back with a status. -/
def returning (status : Int32) : Library Unit Unit :=
  { Library.empty with init := some fun _ _ s => .finish [] s (.status status) }

/-- One plugin in each directory; the init hook of the second fails. -/
def stocked : Disk Unit Unit where
  list _ dir :=
    let name := if dir = Path.ofString "shared" then "head.so" else "tail.so"
    .ok [⟨Utf8.ofString name, .ok true⟩]
  load _ path := .ok (returning (if path = Path.ofString "shared/head.so" then 0 else -1))

def hosting : Dispatcher Unit Unit := ⟨Registry.empty.push (.named "host"), .empty, []⟩

/-- The plugin of the first directory comes in, that of the second fails and is registered all the
same. -/
theorem loads_agenda_shelves :
    (Loader.ofConfig shelves).Undisturbed stocked shelves () ∧
    let run := (⟨.ofConfig shelves, hosting, []⟩ : Manager Unit Unit).setUp stocked shelves ()
    run.value.1 = .error (.hook "tail" .init (.status (-1))) ∧
    ∃ arrivals : List (Plugin Unit Unit),
      arrivals.map Plugin.name = ["head", "tail"] ∧
      run.value.2.dispatcher.registry.plugins = hosting.registry.plugins ++ arrivals ∧
      calls run.trace = arrivals.flatMap Dispatcher.initCalls := by
  have h : (Loader.ofConfig shelves).Undisturbed stocked shelves () :=
    fun _ _ _ _ => ⟨fun _ _ => rfl, fun _ _ _ _ _ _ => rfl⟩
  obtain ⟨-, arrivals, hplugins, -, hcalls, -⟩ := loads_agenda hosting [] h
  refine ⟨h, by decide +kernel, arrivals, ?_, hplugins, hcalls⟩
  have hnames := congrArg (List.map Plugin.name) hplugins
  rw [List.map_append] at hnames
  refine List.append_cancel_left (hnames.symm.trans ?_)
  decide +kernel

end Manager

end PluginHost
