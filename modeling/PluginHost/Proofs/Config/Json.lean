import PluginHost.Config.Load
import PluginHost.Proofs.Config.Settings
import PluginHost.Proofs.Json.Decoding
import PluginHost.Proofs.Text.Utf8

/-!
# Configurations survive JSON

What is read from an object that has some of the fields, and what a configuration is written as.

    reading the members of an object makes the settings among them                (members_eq_ok)
    every text of an object that has some of the fields is read as these over
      the standard values                                                   (ofJsonText_of_writes)
    a configuration is written as the object of all its settings              (jsonText_eq_ok_iff)
    both together: a configuration survives JSON, whole or in part                 (survives_json)
-/

namespace PluginHost.Config

open Json (Says SaysMembers)

/-! ## Reading -/

theorem path_eq_ok {s : String} {t : Json.Tree} (h : Says (.string s) t) (depth : Nat) :
    pathDecoder depth t = .ok (Path.ofString s) := by
  rw [pathDecoder, Json.string_eq_ok h]
  rfl

/-- A member that says a setting makes it. -/
theorem read_eq_ok {s : Setting} {t : Json.Tree} (h : Says s.value t) :
    ∃ f, jsonRecord.fields.find? (fun f => f.name = s.name) = some f ∧
      ∀ depth c, f.read depth t c = .ok (c.set s) := by
  cases s with
  | backendDir dir => exact ⟨_, rfl, fun depth c => Json.Field.read_of (path_eq_ok h depth) c⟩
  | systemDir dir =>
    have hdir := fun depth => Json.optional_eq_ok (fun _ _ hs => path_eq_ok hs depth) h
    exact ⟨_, rfl, fun depth c => Json.Field.read_of (hdir depth) c⟩
  | masterPlugin stem =>
    have hstem : ∀ depth, Json.optional (Json.string "a string") depth t = .ok (stem.map id) :=
      fun depth => Json.optional_eq_ok (fun _ _ hs => Json.string_eq_ok hs _ depth) h
    rw [Option.map_id] at hstem
    exact ⟨_, rfl, fun depth c => Json.Field.read_of (hstem depth) c⟩
  | pluginExtension text | runningDb text | candidateDb text =>
    have htext := Json.string_eq_ok h "a string"
    exact ⟨_, rfl, fun depth c => Json.Field.read_of (htext depth) c⟩
  | resetOnStart on =>
    cases h with
    | bool => exact ⟨_, rfl, fun depth c => rfl⟩

theorem find?_eq_none {name : String} (h : name ∉ fieldNames) :
    jsonRecord.fields.find? (fun f => f.name = name) = none := by
  rw [List.find?_eq_none]
  intro f hf
  have hname : f.name ∈ fieldNames := List.mem_map_of_mem (f := (·.name)) hf
  rw [decide_eq_true_eq]
  rintro rfl
  exact h hname

/-- The members of an object make the settings among them; those of other names are passed over. -/
theorem members_eq_ok {ms : List (String × Json.Value)} {ts : List (Json.Text × Json.Tree)}
    (h : SaysMembers ms ts) {ss : List Setting}
    (hp : (ms.filter (·.1 ∈ fieldNames)).Perm (ss.map Setting.member))
    (hnd : (ss.map Setting.name).Nodup) {seen : List String} (hseen : ∀ s ∈ ss, s.name ∉ seen)
    (depth : Nat) (c : Config) :
    ∃ seen', jsonRecord.members depth seen c ts = .ok (seen', ss.foldl set c) := by
  induction ms generalizing ts ss seen c with
  | nil =>
    cases h
    have hnil : ss = [] := List.map_eq_nil_iff.1 hp.nil_eq.symm
    exact ⟨seen, by rw [hnil]; rfl⟩
  | cons m ms ih =>
    obtain ⟨name, v⟩ := m
    cases h with
    | @cons _ k _ t _ ts hk ht hts =>
    by_cases hname : name ∈ fieldNames
    · rw [List.filter_cons_of_pos (by simpa using hname)] at hp
      obtain ⟨s, hs, hmember⟩ := List.mem_map.1 (hp.mem_iff.1 List.mem_cons_self)
      obtain ⟨rfl, rfl⟩ := Prod.mk.inj hmember
      obtain ⟨l₁, l₂, rfl⟩ := List.append_of_mem hs
      -- the setting comes first in another order of the settings, and the others are left
      have hfront : (l₁ ++ s :: l₂).Perm (s :: (l₁ ++ l₂)) := List.perm_middle
      have hrest := ((hfront.map Setting.member).symm.trans hp.symm).symm.cons_inv
      have hnames := (hfront.map Setting.name).nodup_iff.1 hnd
      rw [List.map_cons, List.nodup_cons] at hnames
      have hnew : ∀ u ∈ l₁ ++ l₂, u.name ∉ s.name :: seen := by
        intro u hu hmem
        rcases List.mem_cons.1 hmem with heq | hmem
        · exact hnames.1 (heq ▸ List.mem_map_of_mem hu)
        · exact hseen u (hfront.mem_iff.2 (List.mem_cons_of_mem _ hu)) hmem
      obtain ⟨f, hf, hread⟩ := read_eq_ok ht
      obtain ⟨seen', hmembers⟩ := ih hts hrest hnames.2 hnew (c.set s)
      refine ⟨seen', ?_⟩
      rw [Json.members_field hk.value hf (hseen s hs) (hread depth c), hmembers,
        foldl_set_perm hfront hnd]
      rfl
    · rw [List.filter_cons_of_neg (by simpa using hname)] at hp
      obtain ⟨seen', hrest⟩ := ih hts hp hnd hseen c
      exact ⟨seen', (Json.members_other hk.value (find?_eq_none hname)
        (Json.skip_eq_ok ht)).trans hrest⟩

/-- Every text of an object that has these settings, and other members, is read as the settings. -/
theorem ofJsonText_of_writes {s : Settings} {ms : List (String × Json.Value)} {text : String}
    (hp : (ms.filter (·.1 ∈ fieldNames)).Perm s.members) (h : Json.WritesText text (.object ms)) :
    ofJsonText text = .ok (s.update standard) := by
  obtain ⟨t, ht, hread⟩ := Json.ofChars_of_writes h
  cases ht with
  | object hms =>
    obtain ⟨seen, hmembers⟩ := members_eq_ok hms hp s.nodup_names
      (fun _ _ => List.not_mem_nil) 126 standard
    rw [s.foldl_set_list] at hmembers
    rw [ofJsonText, Json.decode, hread]
    show (Json.Record.decoder jsonRecord standard (126 + 1) _).bind _ = _
    simp only [Json.Record.decoder, hmembers]
    rfl

/-! ## Writing -/

theorem pathText_eq_ok_iff {p : Path} {s : String} : pathText p = .ok s ↔ p = Path.ofString s := by
  have htext : p.text? = some s ↔ p = Path.ofString s := by
    rw [Path.text?, Utf8.string?_eq_some_iff]
    exact ⟨fun h => congrArg Path.mk h, fun h => congrArg Path.bytes h⟩
  rw [← htext, pathText]
  cases p.text? <;> simp

/-- All settings of a configuration, its paths being these texts. -/
def settings (c : Config) (backendDir : String) (systemDir : Option String) : Settings where
  backendDir := some backendDir
  systemDir := some systemDir
  masterPlugin := some c.masterPlugin
  pluginExtension := some c.pluginExtension
  runningDb := some c.runningDb
  candidateDb := some c.candidateDb
  resetOnStart := some c.resetOnStart

theorem update_settings {c : Config} {b : String} {d : Option String}
    (hb : c.backendDir = Path.ofString b) (hd : c.systemDir = d.map Path.ofString) (c' : Config) :
    (c.settings b d).update c' = c := by
  obtain ⟨_, _, _, _, _, _, _⟩ := c
  cases hb
  cases hd
  rfl

/-- What is written has texts as paths. -/
theorem texts_of_textFields {c : Config} {fields : List (String × Option String)}
    (h : c.textFields = .ok fields) :
    ∃ (b : String) (d : Option String), c.backendDir = Path.ofString b ∧
      c.systemDir = d.map Path.ofString := by
  rw [textFields] at h
  cases hb : pathText c.backendDir with
  | error e =>
    rw [hb] at h
    cases h
  | ok b =>
    rw [hb] at h
    cases hd : c.systemDir with
    | none => exact ⟨b, none, pathText_eq_ok_iff.1 hb, rfl⟩
    | some dir =>
      rw [hd] at h
      cases hs : pathText dir with
      | error e =>
        simp only [hs] at h
        cases h
      | ok s =>
        exact ⟨b, some s, pathText_eq_ok_iff.1 hb, congrArg some (pathText_eq_ok_iff.1 hs)⟩

theorem jsonText_of_texts {c : Config} {b : String} {d : Option String}
    (hb : c.backendDir = Path.ofString b) (hd : c.systemDir = d.map Path.ofString) :
    c.jsonText = .ok (Json.pretty (.object (c.settings b d).members)) := by
  rw [jsonText, toJson, textFields, pathText_eq_ok_iff.2 hb, hd]
  cases d with
  | none => rfl
  | some s =>
    simp only [Option.map_some, pathText_eq_ok_iff.2 rfl]
    rfl

/-- A configuration whose paths are texts is written with all its settings, and no other is. -/
theorem jsonText_eq_ok_iff {c : Config} {text : String} : c.jsonText = .ok text ↔
    ∃ b d, c.backendDir = Path.ofString b ∧ c.systemDir = d.map Path.ofString ∧
      text = Json.pretty (.object (c.settings b d).members) := by
  constructor
  · intro h
    cases hf : c.textFields with
    | error e =>
      rw [jsonText, toJson, hf] at h
      cases h
    | ok fields =>
      obtain ⟨b, d, hb, hd⟩ := texts_of_textFields hf
      rw [jsonText_of_texts hb hd] at h
      exact ⟨b, d, hb, hd, (Except.ok.inj h).symm⟩
  · rintro ⟨b, d, hb, hd, rfl⟩
    exact jsonText_of_texts hb hd

theorem writesText_settings (c : Config) (b : String) (d : Option String) :
    Json.WritesText (Json.pretty (.object (c.settings b d).members))
      (.object (c.settings b d).members) := by
  refine Json.writes_pretty (List.cons_ne_nil _ _) fun m hm => ?_
  obtain ⟨s, -, rfl⟩ := List.mem_map.1 hm
  cases s with
  | backendDir dir => exact Json.writes_optString (some dir) 1
  | systemDir dir => exact Json.writes_optString dir 1
  | masterPlugin stem => exact Json.writes_optString stem 1
  | pluginExtension ext => exact Json.writes_optString (some ext) 1
  | runningDb db => exact Json.writes_optString (some db) 1
  | candidateDb db => exact Json.writes_optString (some db) 1
  | resetOnStart on => exact .bool on

/-! ## Whole and in part -/

theorem text_json_eq_ok_iff {c : Config} {text : String} :
    c.text .json = .ok text ↔ c.jsonText = .ok text := by
  rw [Config.text]
  cases c.jsonText <;> simp [Except.mapError]

theorem ofText_json {c : Config} {text : String} (h : ofJsonText text = .ok c) :
    ofText .json text = .ok c := by
  rw [ofText, h]
  rfl

/-- **Configurations survive JSON.**  One can be written exactly if its paths are texts; what is
written is read back as it; and every text of an object that has some of the fields, in any order
and among members of any other names, is read as the standard configuration with exactly these
fields replaced. -/
theorem survives_json :
    (∀ c : Config, (∃ text, c.text .json = .ok text) ↔
      (∃ s, c.backendDir = Path.ofString s) ∧
        ∀ dir, c.systemDir = some dir → ∃ s, dir = Path.ofString s) ∧
    (∀ (c : Config) (text : String), c.text .json = .ok text → ofText .json text = .ok c) ∧
    ∀ (s : Settings) (ms : List (String × Json.Value)) (text : String),
      (ms.filter (·.1 ∈ fieldNames)).Perm s.members → Json.WritesText text (.object ms) →
        ofText .json text = .ok (s.update standard) := by
  simp only [text_json_eq_ok_iff]
  refine ⟨fun c => ⟨?_, ?_⟩, ?_, fun s ms text hp h => ofText_json (ofJsonText_of_writes hp h)⟩
  · rintro ⟨text, h⟩
    obtain ⟨b, d, hb, hd, -⟩ := jsonText_eq_ok_iff.1 h
    refine ⟨⟨b, hb⟩, fun dir hdir => ?_⟩
    obtain ⟨s, -, hs⟩ := Option.map_eq_some_iff.1 (hd.symm.trans hdir)
    exact ⟨s, hs.symm⟩
  · rintro ⟨⟨b, hb⟩, hdir⟩
    cases hd : c.systemDir with
    | none => exact ⟨_, jsonText_of_texts (d := none) hb hd⟩
    | some dir =>
      obtain ⟨s, rfl⟩ := hdir dir hd
      exact ⟨_, jsonText_of_texts (d := some s) hb hd⟩
  · intro c text h
    obtain ⟨b, d, hb, hd, rfl⟩ := jsonText_eq_ok_iff.1 h
    have hread := ofJsonText_of_writes (List.Perm.of_eq (c.settings b d).filter_members)
      (writesText_settings c b d)
    exact ofText_json (update_settings hb hd standard ▸ hread)

/-- A path with a quote, a backslash, a control and a character of two bytes, and a text of two
fields in another order with a member of no field's name. -/
theorem survives_json_quotes_and_strangers :
    (∃ text,
      Config.text { standard with backendDir := Path.ofString "a\"\\\x01é" } .json = .ok text ∧
      ofText .json text = .ok { standard with backendDir := Path.ofString "a\"\\\x01é" }) ∧
    ofText .json "\x7b\"x\":[null],\"reset_on_start\":true,\"running_db\":\"\\u0041\"\x7d" =
      .ok { standard with runningDb := "A", resetOnStart := true } := by
  obtain ⟨hwritten, hwhole, hpart⟩ := survives_json
  constructor
  · obtain ⟨text, h⟩ := (hwritten { standard with backendDir := Path.ofString "a\"\\\x01é" }).2
      ⟨⟨_, rfl⟩, fun _ hdir => by cases hdir⟩
    exact ⟨text, h, hwhole _ text h⟩
  · refine hpart { runningDb := some "A", resetOnStart := some true }
      [("x", .array [.null]), ("reset_on_start", .bool true), ("running_db", .string "A")]
      _ (.swap _ _ []) ?_
    have hname (name : String) : Json.WritesName name (Json.quoted name ++ []) :=
      ⟨[], _, [], Json.blanks_nil, Json.writesString_quoted name, Json.blanks_nil, rfl⟩
    have hpad {v : Json.Value} {w : List Char} (h : Json.Writes v w) :
        Json.WritesPadded v ([] ++ w ++ []) := .mk Json.blanks_nil h Json.blanks_nil
    have hletter : Json.WritesString "A" ['"', '\\', 'u', '0', '0', '4', '1', '"'] :=
      ⟨_, @Json.WritesChars.unit _ _ _ _ 65 [] [] rfl (by decide) .nil, rfl⟩
    have hmembers := Json.WritesMembers.cons (hname "x") (hpad (.array (.last (hpad .null)))) <|
      .cons (hname "reset_on_start") (hpad (.bool true)) <|
      .last (hname "running_db") (hpad (.string hletter))
    have htext := Json.WritesPadded.mk Json.blanks_nil (.object hmembers) Json.blanks_nil
    exact htext

end PluginHost.Config
