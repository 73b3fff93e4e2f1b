import Mathlib.Data.List.Nodup
import Mathlib.Data.List.Perm.Basic
import Mathlib.Data.List.ReduceOption
import PluginHost.Config
import PluginHost.Json.Value

/-!
# Some of the fields of a configuration

A setting is one field of a configuration with a value for it; as a member of a JSON object it has
a name and a value.  Settings of different fields do not interfere: made one by one, in any order,
they replace their fields.

    settings of different fields, in any order, give the same                (foldl_set_perm)
    the settings of some fields, one by one, replace these fields            (foldl_set_list)
-/

namespace PluginHost.Config

/-! ## One field -/

/-- A field with a value for it. -/
inductive Setting where
  | backendDir (dir : String)
  | systemDir (dir : Option String)
  | masterPlugin (stem : Option String)
  | pluginExtension (ext : String)
  | runningDb (db : String)
  | candidateDb (db : String)
  | resetOnStart (on : Bool)

namespace Setting

def name : Setting → String
  | backendDir _ => "backend_dir"
  | systemDir _ => "system_dir"
  | masterPlugin _ => "master_plugin"
  | pluginExtension _ => "plugin_extension"
  | runningDb _ => "running_db"
  | candidateDb _ => "candidate_db"
  | resetOnStart _ => "reset_on_start"

def value : Setting → Json.Value
  | backendDir s | pluginExtension s | runningDb s | candidateDb s => .string s
  | systemDir s | masterPlugin s => .optString s
  | resetOnStart b => .bool b

def member (s : Setting) : String × Json.Value := (s.name, s.value)

end Setting

def fieldNames : List String :=
  ["backend_dir", "system_dir", "master_plugin", "plugin_extension", "running_db", "candidate_db",
    "reset_on_start"]

theorem mem_fieldNames (s : Setting) : s.name ∈ fieldNames := by
  cases s <;> simp [Setting.name, fieldNames]

def set (c : Config) : Setting → Config
  | .backendDir s => { c with backendDir := Path.ofString s }
  | .systemDir s => { c with systemDir := s.map Path.ofString }
  | .masterPlugin s => { c with masterPlugin := s }
  | .pluginExtension s => { c with pluginExtension := s }
  | .runningDb s => { c with runningDb := s }
  | .candidateDb s => { c with candidateDb := s }
  | .resetOnStart b => { c with resetOnStart := b }

theorem set_comm {s t : Setting} (h : s.name ≠ t.name) (c : Config) :
    (c.set s).set t = (c.set t).set s := by
  cases s <;> cases t <;> first | rfl | exact absurd rfl h

/-- Settings of different fields may be made in any order. -/
theorem foldl_set_perm {ss ts : List Setting} (hp : ss.Perm ts) (hnd : (ss.map Setting.name).Nodup)
    (c : Config) : ss.foldl set c = ts.foldl set c := by
  apply hp.foldl_eq'
  intro s hs t ht c
  by_cases hname : s.name = t.name
  · rw [List.inj_on_of_nodup_map hnd hs ht hname]
  · exact set_comm hname c

/-! ## Some of the fields -/

/-- Values for some of the fields, paths as texts. -/
structure Settings where
  backendDir : Option String := none
  systemDir : Option (Option String) := none
  masterPlugin : Option (Option String) := none
  pluginExtension : Option String := none
  runningDb : Option String := none
  candidateDb : Option String := none
  resetOnStart : Option Bool := none

namespace Settings

/-- The settings one by one. -/
def list (s : Settings) : List Setting :=
  [s.backendDir.map .backendDir, s.systemDir.map .systemDir, s.masterPlugin.map .masterPlugin,
    s.pluginExtension.map .pluginExtension, s.runningDb.map .runningDb,
    s.candidateDb.map .candidateDb, s.resetOnStart.map .resetOnStart].reduceOption

/-- The settings as members of an object. -/
def members (s : Settings) : List (String × Json.Value) := s.list.map Setting.member

/-- A configuration with these fields replaced. -/
def update (s : Settings) (c : Config) : Config where
  backendDir := (s.backendDir.map Path.ofString).getD c.backendDir
  systemDir := (s.systemDir.map (Option.map Path.ofString)).getD c.systemDir
  masterPlugin := s.masterPlugin.getD c.masterPlugin
  pluginExtension := s.pluginExtension.getD c.pluginExtension
  runningDb := s.runningDb.getD c.runningDb
  candidateDb := s.candidateDb.getD c.candidateDb
  resetOnStart := s.resetOnStart.getD c.resetOnStart

/-- Making the settings one by one replaces their fields. -/
theorem foldl_set_list (s : Settings) (c : Config) : s.list.foldl set c = s.update c := by
  obtain ⟨dir, system, master, ext, running, candidate, reset⟩ := s
  cases dir <;> cases system <;> cases master <;> cases ext <;> cases running <;>
    cases candidate <;> cases reset <;> rfl

theorem names_sublist {os : List (Option Setting)} {names : List String}
    (h : List.Forall₂ (fun o name => ∀ s ∈ o, s.name = name) os names) :
    (os.reduceOption.map Setting.name).Sublist names := by
  induction h with
  | nil => exact List.Sublist.slnil
  | @cons o name os names ho _ ih =>
    cases o with
    | none => exact ih.cons name
    | some s =>
      rw [List.reduceOption_cons_of_some, List.map_cons, ho s rfl]
      exact ih.cons_cons name

theorem name_of_mem_map {α : Type} {f : α → Setting} {name : String} (hf : ∀ a, (f a).name = name)
    (o : Option α) : ∀ s ∈ o.map f, s.name = name := by
  intro s hs
  obtain ⟨a, -, rfl⟩ := Option.map_eq_some_iff.1 hs
  exact hf a

/-- No field is named twice. -/
theorem nodup_names (s : Settings) : (s.list.map Setting.name).Nodup := by
  have hnodup : fieldNames.Nodup := by decide
  refine hnodup.sublist (names_sublist ?_)
  refine .cons ?_ (.cons ?_ (.cons ?_ (.cons ?_ (.cons ?_ (.cons ?_ (.cons ?_ .nil))))))
  all_goals exact name_of_mem_map (by exact fun _ => rfl) _

theorem filter_members (s : Settings) : s.members.filter (·.1 ∈ fieldNames) = s.members := by
  rw [List.filter_eq_self]
  intro m hm
  obtain ⟨s, -, rfl⟩ := List.mem_map.1 hm
  exact decide_eq_true (mem_fieldNames s)

end Settings

end PluginHost.Config
