import Mathlib.Data.List.Nodup
import PluginHost.Artifact
import PluginHost.Proofs.Loading
import PluginHost.Proofs.Path
import PluginHost.Proofs.Text.Utf8

/-!
# The order of discovery

A directory is listed in any order.  Its plugins are the regular files whose names have the loader's
extension; they are sorted by their names, and the master plugin is moved to the front.  As no two
entries have the same name, there is only one sorted order, and as the master's name and the extension
tell a whole name, there is only one master plugin.

    bytesLe a b = true ↔ a ≤ b                                                       (bytesLe_iff)
    sorting does not depend on the order before                                 (byName_eq_of_perm)
    the first master plugin comes first, the others keep their order               (masterFirst_eq)
    a listing gives each plugin once, in order                        (IsListing.discovered_select)
    names that are texts give plugins different names                      (Discovered.nodup_nameOf)
    a directory is discovered in one order, and no name in it is taken        (discovers_in_order)
-/

namespace PluginHost.FileSystem

/-- A path that leads to a regular file, if need be through links. -/
def ReachesFile (fs : FileSystem) (p : Path) : Prop :=
  (∃ content, fs.follow p = .ok (.file content)) ∨ ∃ name, fs.follow p = .ok (.library name)

theorem isFile_eq_ok_true_iff {fs : FileSystem} {p : Path} :
    fs.isFile p = .ok true ↔ fs.ReachesFile p := by
  unfold isFile ReachesFile
  cases fs.follow p with
  | error e => simp
  | ok node => cases node <;> simp

end PluginHost.FileSystem

namespace PluginHost.Loader

open PluginHost.Path (IsName Splits)

variable {l : Loader} {n : List UInt8} {entries entries' : List DirEntry}

/-! ## What qualifies -/

/-- The entries of one directory: each has a name, and no two have the same. -/
structure IsListing (entries : List DirEntry) : Prop where
  name : ∀ e ∈ entries, IsName e.name
  once : (entries.map DirEntry.name).Nodup

/-- A plugin is a regular file whose name has the loader's extension. -/
structure IsPlugin (l : Loader) (e : DirEntry) : Prop where
  file : e.file = .ok true
  ext : ∃ stem, Splits e.name stem (Utf8.ofString l.extension)

/-- The master plugin is the one whose name has the master's name for a stem. -/
structure IsMaster (l : Loader) (e : DirEntry) : Prop where
  plugin : l.IsPlugin e
  stem : ∃ m, l.master = some m ∧ Splits e.name (Utf8.ofString m) (Utf8.ofString l.extension)

theorem hasExtension_join (h : IsName n) (dir : Path) :
    l.hasExtension (dir.join ⟨n⟩) = true ↔ ∃ stem, Splits n stem (Utf8.ofString l.extension) := by
  rw [hasExtension, decide_eq_true_iff, Option.bind_eq_some_iff, ← h.extension?_join_eq_some_iff dir]
  constructor
  · rintro ⟨ext, hext, htext⟩
    rwa [← Utf8.string?_eq_some_iff.1 htext]
  · exact fun hext => ⟨_, hext, Utf8.string?_eq_some_iff.2 rfl⟩

theorem pluginName?_join (h : IsName n) (dir : Path) {stem ext : List UInt8}
    (hs : Splits n stem ext) : pluginName? (dir.join ⟨n⟩) = Utf8.string? stem := by
  rw [pluginName?, h.stem?_join dir hs, Option.bind_some]

theorem isMaster_join (h : IsName n) (dir : Path) {stem ext : List UInt8}
    (hs : Splits n stem ext) :
    l.isMaster (dir.join ⟨n⟩) = true ↔ ∃ m, l.master = some m ∧ stem = Utf8.ofString m := by
  rw [isMaster, pluginName?_join h dir hs]
  constructor
  · intro hm
    split at hm
    · next m text hmaster htext =>
      obtain rfl : m = text := of_decide_eq_true hm
      exact ⟨m, hmaster, Utf8.string?_eq_some_iff.1 htext⟩
    · cases hm
  · rintro ⟨m, hmaster, rfl⟩
    rw [hmaster, Utf8.string?_eq_some_iff.2 rfl]
    exact decide_eq_true rfl

/-! ## Sorting -/

theorem bytesLe_iff (a b : List UInt8) : bytesLe a b = true ↔ a ≤ b := by
  induction a generalizing b with
  | nil => simp [bytesLe]
  | cons x a ih =>
    cases b with
    | nil => simp [bytesLe]
    | cons y b => simp [bytesLe, ih, List.cons_le_cons_iff]

def byName (entries : List DirEntry) : List DirEntry :=
  entries.mergeSort fun a b => bytesLe a.name b.name

theorem byName_perm (entries : List DirEntry) : (byName entries).Perm entries :=
  List.mergeSort_perm _ _

theorem pairwise_byName (entries : List DirEntry) :
    (byName entries).Pairwise fun a b => a.name ≤ b.name := by
  have htrans : ∀ a b c : DirEntry, bytesLe a.name b.name = true → bytesLe b.name c.name = true →
      bytesLe a.name c.name = true := by
    intro a b c hab hbc
    rw [bytesLe_iff] at *
    exact List.le_trans hab hbc
  have htotal : ∀ a b : DirEntry, (bytesLe a.name b.name || bytesLe b.name a.name) = true := by
    intro a b
    rw [Bool.or_eq_true, bytesLe_iff, bytesLe_iff]
    exact List.le_total _ _
  exact (List.pairwise_mergeSort htrans htotal entries).imp fun hab => (bytesLe_iff _ _).1 hab

/-- Names that are not repeated stand in one order only. -/
theorem byName_eq_of_perm (h : entries'.Perm entries) (hn : (entries.map DirEntry.name).Nodup) :
    byName entries' = byName entries := by
  refine List.Perm.eq_of_pairwise (fun a b ha hb hab hba => ?_) (pairwise_byName _)
    (pairwise_byName _) ((byName_perm _).trans (h.trans (byName_perm _).symm))
  have ha : a ∈ entries := h.subset ((byName_perm _).subset ha)
  have hb : b ∈ entries := (byName_perm _).subset hb
  exact List.inj_on_of_nodup_map hn ha hb (List.le_antisymm hab hba)

/-- Entries that stand in the order of their names keep it. -/
theorem byName_of_pairwise (h : entries.Pairwise fun a b => bytesLe a.name b.name = true) :
    byName entries = entries :=
  List.mergeSort_of_pairwise h

theorem pairwise_lt_byName (hn : (entries.map DirEntry.name).Nodup) :
    (byName entries).Pairwise fun a b => a.name < b.name := by
  have hne : (byName entries).Pairwise fun a b => a.name ≠ b.name :=
    List.pairwise_map.1 (((byName_perm _).map _).nodup_iff.2 hn)
  refine ((pairwise_byName entries).and hne).imp fun ⟨hle, hne⟩ => ?_
  exact (List.le_iff_lt_or_eq.1 hle).resolve_right hne

/-! ## The master plugin -/

theorem masterFirst_perm (l : Loader) (paths : List Path) : (l.masterFirst paths).Perm paths := by
  unfold masterFirst
  split
  · exact .refl _
  · next m hm => exact (List.perm_cons_erase (List.mem_of_find?_eq_some hm)).symm

section
variable {paths : List Path}
  (hone : ∀ p ∈ paths, ∀ q ∈ paths, l.isMaster p = true → l.isMaster q = true → p = q)
include hone

theorem find?_isMaster_eq_some_iff {p : Path} :
    paths.find? l.isMaster = some p ↔ p ∈ paths ∧ l.isMaster p = true := by
  constructor
  · exact fun h => ⟨List.mem_of_find?_eq_some h, List.find?_some h⟩
  · rintro ⟨hp, hm⟩
    obtain ⟨q, hq⟩ := Option.isSome_iff_exists.1 (List.find?_isSome.2 ⟨p, hp, hm⟩)
    rw [hq, hone q (List.mem_of_find?_eq_some hq) p hp (List.find?_some hq) hm]

/-- Where only one path is the master plugin, the others keep their order. -/
theorem masterFirst_eq (hn : paths.Nodup) :
    l.masterFirst paths
      = (paths.find? l.isMaster).toList ++ paths.filter fun p => !l.isMaster p := by
  unfold masterFirst
  cases hf : paths.find? l.isMaster with
  | none =>
    have hnone := List.find?_eq_none.1 hf
    exact (List.filter_eq_self.2 fun p hp => by simpa using hnone p hp).symm
  | some m =>
    obtain ⟨hmem, hm⟩ := (find?_isMaster_eq_some_iff hone).1 hf
    -- the only master plugin is taken out just where those that are none are kept
    show m :: paths.erase m = m :: paths.filter _
    rw [hn.erase_eq_filter]
    refine congrArg _ (List.filter_congr fun p hp => ?_)
    rw [Bool.eq_iff_iff, bne_iff_ne, Bool.not_eq_true']
    refine ⟨fun hne => Bool.eq_false_iff.2 fun h => hne (hone p hp m hmem h hm), ?_⟩
    rintro h rfl
    rw [hm] at h
    cases h

end

/-! ## Directories -/

/-- Paths by their file names. -/
def Precedes (p q : Path) : Prop :=
  ∃ a b, p.fileName? = some a ∧ q.fileName? = some b ∧ a < b

/-- The paths of a directory's plugins: each plugin once and nothing else, the master plugin first,
and the others by their file names. -/
structure Discovered (l : Loader) (dir : Path) (entries : List DirEntry) (found : List Path) :
    Prop where
  mem : ∀ path, path ∈ found ↔ ∃ e ∈ entries, l.IsPlugin e ∧ path = dir.join ⟨e.name⟩
  once : (found.map Path.fileName?).Nodup
  order : ∃ first rest, found = first ++ rest ∧ first.length ≤ 1 ∧
    (∀ path, path ∈ first ↔ ∃ e ∈ entries, l.IsMaster e ∧ path = dir.join ⟨e.name⟩) ∧
    rest.Pairwise Precedes

def plugins (l : Loader) (dir : Path) (entries : List DirEntry) : List DirEntry :=
  (l.candidates dir entries).filter DirEntry.isRegular

/-- Their paths, in the order of their names. -/
def inOrder (l : Loader) (dir : Path) (entries : List DirEntry) : List Path :=
  (byName (l.plugins dir entries)).map fun e => dir.join ⟨e.name⟩

theorem select_eq (l : Loader) (dir : Path) (entries : List DirEntry) :
    l.select dir entries = l.masterFirst (l.inOrder dir entries) := rfl

theorem isRegular_iff (e : DirEntry) : DirEntry.isRegular e = true ↔ e.file = .ok true := by
  unfold DirEntry.isRegular
  split
  · next h => simp [h]
  · next h => simpa using h

variable {dir : Path}

theorem IsListing.mem_plugins (h : IsListing entries) {e : DirEntry} :
    e ∈ l.plugins dir entries ↔ e ∈ entries ∧ l.IsPlugin e := by
  rw [plugins, candidates, List.mem_filter, List.mem_filter, isRegular_iff]
  constructor
  · rintro ⟨⟨he, hext⟩, hfile⟩
    exact ⟨he, hfile, (hasExtension_join (h.name e he) dir).1 hext⟩
  · rintro ⟨he, hfile, hext⟩
    exact ⟨⟨he, (hasExtension_join (h.name e he) dir).2 hext⟩, hfile⟩

theorem IsListing.plugins (h : IsListing entries) (l : Loader) (dir : Path) :
    IsListing (l.plugins dir entries) where
  name e he := h.name e (h.mem_plugins.1 he).1
  once := h.once.sublist ((List.filter_sublist.trans List.filter_sublist).map _)

theorem IsListing.isMaster_iff (h : IsListing entries) {e : DirEntry} (he : e ∈ entries)
    (hp : l.IsPlugin e) : l.isMaster (dir.join ⟨e.name⟩) = true ↔ l.IsMaster e := by
  obtain ⟨stem, hs⟩ := hp.ext
  rw [isMaster_join (h.name e he) dir hs]
  constructor
  · rintro ⟨m, hm, rfl⟩
    exact ⟨hp, m, hm, hs⟩
  · rintro ⟨-, m, hm, hs'⟩
    refine ⟨m, hm, ?_⟩
    have heq := Path.splitName_eq_iff.2 hs
    rw [Path.splitName_eq_iff.2 hs'] at heq
    exact (congrArg Prod.fst heq).symm

/-- The master's name and the extension tell the whole name of the file. -/
theorem IsMaster.name_eq {e e' : DirEntry} (h : l.IsMaster e) (h' : l.IsMaster e') :
    e.name = e'.name := by
  obtain ⟨m, hm, hs⟩ := h.stem
  obtain ⟨m', hm', hs'⟩ := h'.stem
  obtain rfl : m = m' := Option.some.inj (hm.symm.trans hm')
  rw [hs.eq, hs'.eq]

theorem IsListing.mem_byName (h : IsListing entries) {e : DirEntry} :
    e ∈ byName (l.plugins dir entries) ↔ e ∈ entries ∧ l.IsPlugin e :=
  (byName_perm _).mem_iff.trans h.mem_plugins

theorem IsListing.mem_inOrder (h : IsListing entries) {path : Path} :
    path ∈ l.inOrder dir entries ↔ ∃ e ∈ entries, l.IsPlugin e ∧ path = dir.join ⟨e.name⟩ := by
  rw [inOrder, List.mem_map]
  constructor
  · rintro ⟨e, he, rfl⟩
    exact ⟨e, (h.mem_byName.1 he).1, (h.mem_byName.1 he).2, rfl⟩
  · rintro ⟨e, he, hp, rfl⟩
    exact ⟨e, h.mem_byName.2 ⟨he, hp⟩, rfl⟩

theorem IsListing.nodup_inOrder (h : IsListing entries) (l : Loader) (dir : Path) :
    ((l.inOrder dir entries).map Path.fileName?).Nodup := by
  have hfile : (l.inOrder dir entries).map Path.fileName?
      = ((byName (l.plugins dir entries)).map DirEntry.name).map some := by
    rw [inOrder, List.map_map, List.map_map]
    exact List.map_congr_left fun e he => (h.name e (h.mem_byName.1 he).1).fileName?_join dir
  rw [hfile]
  exact (((byName_perm _).map _).nodup_iff.2 (h.plugins l dir).once).map fun _ _ => Option.some.inj

theorem IsListing.pairwise_inOrder (h : IsListing entries) (l : Loader) (dir : Path) :
    (l.inOrder dir entries).Pairwise Precedes := by
  rw [inOrder, List.pairwise_map]
  refine (List.Pairwise.and_mem.1 (pairwise_lt_byName (h.plugins l dir).once)).imp ?_
  rintro a b ⟨ha, hb, hlt⟩
  exact ⟨a.name, b.name, (h.name a (h.mem_byName.1 ha).1).fileName?_join dir,
    (h.name b (h.mem_byName.1 hb).1).fileName?_join dir, hlt⟩

theorem IsListing.mem_inOrder_and_isMaster (h : IsListing entries) {path : Path} :
    path ∈ l.inOrder dir entries ∧ l.isMaster path = true ↔
      ∃ e ∈ entries, l.IsMaster e ∧ path = dir.join ⟨e.name⟩ := by
  rw [h.mem_inOrder]
  constructor
  · rintro ⟨⟨e, he, hp, rfl⟩, hm⟩
    exact ⟨e, he, (h.isMaster_iff he hp).1 hm, rfl⟩
  · rintro ⟨e, he, hm, rfl⟩
    exact ⟨⟨e, he, hm.plugin, rfl⟩, (h.isMaster_iff he hm.plugin).2 hm⟩

theorem IsListing.discovered_select (h : IsListing entries) (l : Loader) (dir : Path) :
    l.Discovered dir entries (l.select dir entries) := by
  have hone : ∀ p ∈ l.inOrder dir entries, ∀ q ∈ l.inOrder dir entries,
      l.isMaster p = true → l.isMaster q = true → p = q := by
    intro p hp q hq hmp hmq
    obtain ⟨e, -, he, rfl⟩ := h.mem_inOrder_and_isMaster.1 ⟨hp, hmp⟩
    obtain ⟨e', -, he', rfl⟩ := h.mem_inOrder_and_isMaster.1 ⟨hq, hmq⟩
    rw [he.name_eq he']
  have hnodup := h.nodup_inOrder l dir
  have hperm := l.masterFirst_perm (l.inOrder dir entries)
  rw [select_eq]
  refine ⟨fun path => hperm.mem_iff.trans h.mem_inOrder, (hperm.map _).nodup_iff.2 hnodup, _, _,
    masterFirst_eq hone (List.Nodup.of_map _ hnodup), ?_, fun path => ?_,
    (h.pairwise_inOrder l dir).filter _⟩
  · cases (l.inOrder dir entries).find? l.isMaster <;> simp
  · rw [Option.mem_toList, find?_isMaster_eq_some_iff hone, h.mem_inOrder_and_isMaster]

/-- The order in which a directory is listed makes no difference. -/
theorem IsListing.select_eq_of_perm (h : IsListing entries) (hperm : entries'.Perm entries)
    (l : Loader) (dir : Path) : l.select dir entries' = l.select dir entries := by
  have hplugins : (l.plugins dir entries').Perm (l.plugins dir entries) :=
    (hperm.filter _).filter _
  rw [select_eq, select_eq, inOrder, inOrder, byName_eq_of_perm hplugins (h.plugins l dir).once]

/-- Of a directory of a file system, the names with the extension that lead to regular files are
found. -/
theorem Discovered.mem_of_files_iff {found : List Path} {fs : FileSystem}
    {names : List (List UInt8)}
    (h : l.Discovered dir (names.map fun n => ⟨n, fs.isFile (dir.join ⟨n⟩)⟩) found) (path : Path) :
    path ∈ found ↔ ∃ n ∈ names, (∃ stem, Splits n stem (Utf8.ofString l.extension)) ∧
      fs.ReachesFile (dir.join ⟨n⟩) ∧ path = dir.join ⟨n⟩ := by
  rw [h.mem]
  constructor
  · rintro ⟨e, he, ⟨hfile, hext⟩, hpath⟩
    obtain ⟨n, hn, rfl⟩ := List.mem_map.1 he
    exact ⟨n, hn, hext, fs.isFile_eq_ok_true_iff.1 hfile, hpath⟩
  · rintro ⟨n, hn, hext, hfile, hpath⟩
    exact ⟨_, List.mem_map_of_mem hn, ⟨fs.isFile_eq_ok_true_iff.2 hfile, hext⟩, hpath⟩

/-! ## Names -/

/-- The name that the plugin in a file is given. -/
def nameOf (path : Path) : String := (pluginName? path).getD path.display

theorem name_meet {σ ν : Type} {disk : Disk σ ν} {s : σ} {path : Path} {p : Plugin σ ν}
    (h : meet disk s path = .ok p) : p.name = nameOf path := by
  simp only [meet] at h
  split at h
  · cases h
  · obtain rfl := Except.ok.inj h
    rfl

/-- The stem of a name that is a text is the text of the plugin's name. -/
theorem ofString_nameOf_join (h : IsName n) (dir : Path) {stem ext : List UInt8}
    (hs : Splits n stem ext) {text : String} (ht : n = Utf8.ofString text) :
    Utf8.ofString (nameOf (dir.join ⟨n⟩)) = stem := by
  have hcut : Utf8.encode text.toList = stem ++ Path.point :: ext := ht.symm.trans hs.eq
  obtain ⟨cs, -, rfl, -⟩ := Utf8.encode_eq_append_cons (by decide) hcut
  have hstring : Utf8.string? (Utf8.encode cs) = some (String.ofList cs) := by
    rw [Utf8.string?_eq_some_iff, Utf8.ofString, String.toList_ofList]
  rw [nameOf, pluginName?_join h dir hs, hstring, Option.getD_some, Utf8.ofString,
    String.toList_ofList]

/-- Where the names of the files are texts, the plugins are named differently. -/
theorem Discovered.nodup_nameOf {found : List Path} (hd : l.Discovered dir entries found)
    (h : IsListing entries)
    (htext : ∀ e ∈ entries, l.IsPlugin e → ∃ text, e.name = Utf8.ofString text) :
    (found.map nameOf).Nodup := by
  refine List.Nodup.map_on (fun p hp q hq hpq => ?_) (List.Nodup.of_map _ hd.once)
  obtain ⟨a, ha, hpa, rfl⟩ := (hd.mem p).1 hp
  obtain ⟨b, hb, hpb, rfl⟩ := (hd.mem q).1 hq
  obtain ⟨stem, hs⟩ := hpa.ext
  obtain ⟨stem', hs'⟩ := hpb.ext
  obtain ⟨text, ht⟩ := htext a ha hpa
  obtain ⟨text', ht'⟩ := htext b hb hpb
  have hstem : stem = stem' := by
    rw [← ofString_nameOf_join (h.name a ha) dir hs ht, hpq,
      ofString_nameOf_join (h.name b hb) dir hs' ht']
  rw [hs.eq, hs'.eq, hstem]

/-! ## Loading a directory -/

variable {σ ν : Type} {disk : Disk σ ν} {cfg : Config}

/-- Plugins that are met one after another have the names of their files. -/
theorem names_of_met {paths : List Path} {x : Scene σ ν} {met : List (Plugin σ ν)}
    (h : met.map .ok <+: trailOf disk cfg paths x) :
    met.map Plugin.name <+: paths.map nameOf := by
  induction paths generalizing met x with
  | nil =>
    obtain rfl : met = [] := by simpa [trailOf] using h
    exact List.nil_prefix
  | cons path paths ih =>
    cases met with
    | nil => exact List.nil_prefix
    | cons p met =>
      obtain ⟨hp, hmet⟩ := List.cons_prefix_cons.1 h
      exact List.cons_prefix_cons.2 ⟨name_meet hp.symm, ih hmet⟩

theorem duplicate_not_mem_trailOf (paths : List Path) (x : Scene σ ν) (name : String) :
    .error (.duplicate name) ∉ trailOf disk cfg paths x := by
  induction paths generalizing x with
  | nil => exact List.not_mem_nil
  | cons path paths ih =>
    rw [trailOf, List.mem_cons, not_or]
    refine ⟨fun h => ?_, ih _⟩
    rw [meet] at h
    split at h <;> simp at h

/-- Where no name is registered yet, one is taken only by a plugin of an earlier file. -/
theorem not_nodup_of_duplicate {paths : List Path} {x : Scene σ ν}
    (hx : ∀ name, x.registry.contains name = false) {met : List (Found σ ν)}
    (hmet : met <+: trailOf disk cfg paths x) {arrivals : List (Plugin σ ν)} {name : String}
    (h : x.Admits cfg met arrivals (some (.duplicate name))) : ¬ (paths.map nameOf).Nodup := by
  intro hn
  cases h with
  | upTo before f extra e hw hh =>
    cases hh with
    | obstacle =>
      exact duplicate_not_mem_trailOf paths x name (hmet.subset (by simp))
    | taken p hc =>
      have hp : p.name ∈ before.map Plugin.name := by
        rcases (Scene.contains_after x cfg before p.name).1 hc with hc | hc
        · rw [hx] at hc
          cases hc
        · exact hc
      -- the file of `p` gives the same name as an earlier one
      have hprefix : (before ++ [p]).map .ok <+: trailOf disk cfg paths x := by
        rwa [List.map_append]
      have hbefore := hn.sublist (names_of_met hprefix).sublist
      rw [List.map_append, List.nodup_append] at hbefore
      exact hbefore.2.2 _ hp _ (List.mem_singleton_self _) rfl

end PluginHost.Loader

namespace PluginHost.Manager

variable {σ ν : Type} {disk : Disk σ ν} {cfg : Config}

/-- Where the files of a directory name their plugins differently, and nothing is registered yet, no
name is taken. -/
theorem loadDir_ne_duplicate (m : Manager σ ν) (hm : m.dispatcher.registry = .empty) {s : σ}
    {dir : Path} {paths : List Path} (hpaths : m.loader.files disk s dir = .ok paths)
    (hn : (paths.map Loader.nameOf).Nodup) (name : String) :
    (m.loadDir disk cfg dir s).value.1 ≠ .error (.duplicate name) := by
  intro hv
  obtain ⟨n, e?, d', met, rest, arrivals, htrail, -, hb, ha, -⟩ := m.takes_loadDir disk cfg dir s
  rw [Loader.trailIn, Dispatcher.scene_state, hpaths] at htrail
  rw [hb.value] at hv
  obtain rfl : e? = some (.duplicate name) := by
    cases e? with
    | none => cases hv
    | some e => rw [Except.error.inj hv]
  have hx : ∀ name, (m.dispatcher.scene s).registry.contains name = false := by
    intro name
    rw [Dispatcher.scene, hm]
    rfl
  exact Loader.not_nodup_of_duplicate hx ⟨rest, htrail.symm⟩ ha hn

end PluginHost.Manager

namespace PluginHost.Loader

variable {σ ν : Type} {disk : Disk σ ν} {s : σ} {entries : List DirEntry}

/-- What is discovered in a directory is settled by its entries, in whatever order they are listed:
each plugin once and nothing else, the master plugin first, and the others by their file names.  If
their names are texts, loading them into a dispatcher without plugins finds no name taken. -/
theorem discovers_in_order (l : Loader) (dir : Path) (hlist : disk.list s dir = .ok entries)
    (h : IsListing entries) :
    ∃ found, (l.discoverDir disk dir s).value = .ok found ∧ l.Discovered dir entries found ∧
      (∀ files : Files σ, disk.list = files.entries → ∃ names,
        (files.read s).list dir = .ok names ∧ ∀ path, path ∈ found ↔
          ∃ n ∈ names, (∃ stem, Path.Splits n stem (Utf8.ofString l.extension)) ∧
            (files.read s).ReachesFile (dir.join ⟨n⟩) ∧ path = dir.join ⟨n⟩) ∧
      (∀ (disk' : Disk σ ν) (s' : σ) entries', entries'.Perm entries →
        disk'.list s' dir = .ok entries' → (l.discoverDir disk' dir s').value = .ok found) ∧
      ((∀ e ∈ entries, l.IsPlugin e → ∃ text, e.name = Utf8.ofString text) →
        (found.map nameOf).Nodup ∧
        (∀ (disk' : Disk σ ν) (s' : σ) path p, (load disk' path s').value = .ok p →
          p.name = nameOf path) ∧
        ∀ (m : Manager σ ν) (cfg : Config) name, m.loader = l → m.dispatcher.registry = .empty →
          (m.loadDir disk cfg dir s).value.1 ≠ .error (.duplicate name)) := by
  have hd := h.discovered_select l dir
  have hfiles : l.files disk s dir = .ok (l.select dir entries) := by rw [files, hlist]
  refine ⟨l.select dir entries, ?_, hd, fun files hdisk => ?_, fun disk' s' entries' hperm hl => ?_,
    fun htext => ⟨hd.nodup_nameOf h htext, fun disk' s' path p hp => ?_,
      fun m cfg name hm hempty => ?_⟩⟩
  · rw [value_discoverDir, hfiles]
  · rw [hdisk, Files.entries] at hlist
    split at hlist
    · cases hlist
    · next names hnames =>
      obtain rfl := Except.ok.inj hlist
      exact ⟨names, hnames, hd.mem_of_files_iff⟩
  · rw [value_discoverDir, Loader.files, hl, ← h.select_eq_of_perm hperm]
  · rw [value_load] at hp
    exact name_meet hp
  · subst hm
    exact m.loadDir_ne_duplicate hempty hfiles (hd.nodup_nameOf h htext) name

/-! ## A mixed directory -/

/-- A file system as the whole state, which takes all that is written. -/
def bare : Files FileSystem := ⟨fun fs => fs, fun _ fs => fs, fun _ _ _ => none⟩

/-- Its directories and the known libraries. -/
def bareDisk : Disk FileSystem Unit := bare.disk (Artifact.library? bare)

/-- A directory with plain files, a library, links that lead somewhere and nowhere, a directory, and a
name that is no text. -/
def mixed : FileSystem where
  nodes := [
    ([Utf8.ofString "p"], .directory),
    ([Utf8.ofString "p", Utf8.ofString "gone.so"], .link (.ofString "nowhere")),
    ([Utf8.ofString "p", Utf8.ofString "b.so"], .file []),
    ([Utf8.ofString "p", Utf8.ofString ".so"], .file []),
    ([Utf8.ofString "p", Utf8.ofString "so."], .file []),
    ([Utf8.ofString "p", 0xFF :: Utf8.ofString ".txt"], .file []),
    ([Utf8.ofString "p", Utf8.ofString "core.so"], .library "ok"),
    ([Utf8.ofString "p", Utf8.ofString "a.b.so"], .link (.ofString "/p/b.so")),
    ([Utf8.ofString "p", Utf8.ofString "sub.so"], .directory)]
  cwd := []

def mixedEntries : List DirEntry := [
  ⟨Utf8.ofString "gone.so", .error .notFound⟩, ⟨Utf8.ofString "b.so", .ok true⟩,
  ⟨Utf8.ofString ".so", .ok true⟩, ⟨Utf8.ofString "so.", .ok true⟩,
  ⟨0xFF :: Utf8.ofString ".txt", .ok true⟩, ⟨Utf8.ofString "core.so", .ok true⟩,
  ⟨Utf8.ofString "a.b.so", .ok true⟩, ⟨Utf8.ofString "sub.so", .ok false⟩]

/-- A plain file in it. -/
def plain (name : String) : DirEntry := ⟨Utf8.ofString name, .ok true⟩

def mixedLoader : Loader := ⟨[.ofString "/p"], "so", some "core"⟩

/-- The master plugin is found first, then the others by their names, and loading them finds no name
taken. -/
theorem discovers_mixed :
    bareDisk.list mixed (.ofString "/p") = .ok mixedEntries ∧
    IsListing mixedEntries ∧
    (mixedLoader.discoverDir bareDisk (.ofString "/p") mixed).value
      = .ok [.ofString "/p/core.so", .ofString "/p/a.b.so", .ofString "/p/b.so"] ∧
    ∀ cfg name, ((⟨mixedLoader, .empty, []⟩ : Manager FileSystem Unit).loadDir bareDisk cfg
      (.ofString "/p") mixed).value.1 ≠ .error (.duplicate name) := by
  have hlist : bareDisk.list mixed (.ofString "/p") = .ok mixedEntries := by rfl
  have h : IsListing mixedEntries := ⟨by decide, by decide⟩
  have htext : ∀ e ∈ mixedEntries, mixedLoader.IsPlugin e →
      ∃ text, e.name = Utf8.ofString text := by
    intro e he hp
    simp only [mixedEntries, List.mem_cons, List.not_mem_nil, or_false] at he
    rcases he with rfl | rfl | rfl | rfl | rfl | rfl | rfl | rfl
    case inr.inr.inr.inr.inl =>
      -- the name that is no text has another extension
      obtain ⟨stem, hs⟩ := hp.ext
      have hne : (Path.splitName (0xFF :: Utf8.ofString ".txt")).2 ≠ some (Utf8.ofString "so") := by
        decide
      exact absurd (congrArg Prod.snd (Path.splitName_eq_iff.2 hs)) hne
    all_goals exact ⟨_, rfl⟩
  obtain ⟨found, hv, -, -, -, hnames⟩ := mixedLoader.discovers_in_order (.ofString "/p") hlist h
  obtain ⟨-, -, hload⟩ := hnames htext
  refine ⟨hlist, h, ?_, fun cfg name => hload _ cfg name rfl rfl⟩
  have hplugins : mixedLoader.plugins (.ofString "/p") mixedEntries =
      [plain "b.so", plain "core.so", plain "a.b.so"] := by with_unfolding_all rfl
  -- a merge sort does not compute, so the order of the names is proved
  have hperm : [plain "b.so", plain "core.so", plain "a.b.so"].Perm
      [plain "a.b.so", plain "b.so", plain "core.so"] :=
    List.perm_append_singleton (plain "a.b.so") [plain "b.so", plain "core.so"]
  have hsorted : byName [plain "b.so", plain "core.so", plain "a.b.so"] =
      [plain "a.b.so", plain "b.so", plain "core.so"] :=
    (byName_eq_of_perm hperm (by decide)).trans (byName_of_pairwise (by decide))
  have hselect : mixedLoader.select (.ofString "/p") mixedEntries =
      [.ofString "/p/core.so", .ofString "/p/a.b.so", .ofString "/p/b.so"] := by
    rw [select_eq, inOrder, hplugins, hsorted]
    decide +kernel
  rw [value_discoverDir, Loader.files, hlist]
  exact congrArg Except.ok hselect

end PluginHost.Loader
