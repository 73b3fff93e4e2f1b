import PluginHost.Config.Json
import PluginHost.Yaml.Event
import PluginHost.Yaml.Print

/-!
# Configurations as YAML

A configuration is written as a mapping with all its fields; an absent option is null.  It is read
from a mapping with any of the fields, or from nothing; a field given twice is an error, and the
fields left out have their standard values.  Every scalar is the text of a field of texts, whether
or not it looks like a number; options take a plain null as absent.
-/

namespace PluginHost.Config

open Yaml

/-! ## Writing -/

def yamlText (c : Config) : Except String String := do
  let fields ← c.textFields
  let lines := fields.flatMap fun (key, text) =>
    member key ((text.map scalar).getD ['n', 'u', 'l', 'l'])
  return String.ofList (lines ++ member resetField (Json.boolText c.resetOnStart))

/-! ## Reading -/

/-- The scalar that an event is or stands for. -/
def yamlScalar? (d : Document) : Yaml.Event → Option Scalar
  | .scalar s => some s
  | .alias n =>
    match d.find? n with
    | some (.scalar s) => some s
    | _ => none
  | _ => none

/-- The full tag of nothing. -/
def nullTag : String := "tag:yaml.org,2002:null"

/-- The full tag of truth values. -/
def boolTag : String := "tag:yaml.org,2002:bool"

/-- A scalar as the text of an option.  A plain scalar with the tag of nothing must be a word for
nothing; one with another tag is a text. -/
def yamlOption (s : Scalar) : Except Problem (Option String) :=
  if s.layout ≠ .plain then .ok (some s.text)
  else
    match s.tag with
    | none => .ok (if isNull s.text then none else some s.text)
    | some tag =>
      if tag ≠ nullTag then .ok (some s.text)
      else if isNull s.text ∧ s.text ≠ "" then .ok none
      else .error (.wrongType "null")

/-- A scalar as a truth value: a plain one, or a literal one with the tag of truth values. -/
def yamlBool (s : Scalar) : Except Problem Bool :=
  let bare := s.layout = .plain ∨ (s.layout = .literal ∧ s.tag = some boolTag)
  match (if bare then bool? s.text else none) with
  | some b => .ok b
  | none => .error (.wrongType "a boolean")

/-- What a scalar does to the configuration when it stands in a field; `none` if there is no such
field. -/
def yamlField? (name : String) : Option (Scalar → Config → Except Problem Config) :=
  if name = "backend_dir" then
    some fun s c => .ok { c with backendDir := Path.ofString s.text }
  else if name = "system_dir" then
    some fun s c => (yamlOption s).map fun o => { c with systemDir := o.map Path.ofString }
  else if name = "master_plugin" then
    some fun s c => (yamlOption s).map fun o => { c with masterPlugin := o }
  else if name = "plugin_extension" then some fun s c => .ok { c with pluginExtension := s.text }
  else if name = "running_db" then some fun s c => .ok { c with runningDb := s.text }
  else if name = "candidate_db" then some fun s c => .ok { c with candidateDb := s.text }
  else if name = resetField then
    some fun s c => (yamlBool s).map fun b => { c with resetOnStart := b }
  else none

/-- The events behind the next node, `depth` collections being open. -/
def skipNode : Nat → List Yaml.Event → List Yaml.Event
  | _, [] => []
  | depth, .mappingStart :: es => skipNode (depth + 1) es
  | depth, .sequenceStart :: es => skipNode (depth + 1) es
  | depth, .mappingEnd :: es => if depth ≤ 1 then es else skipNode (depth - 1) es
  | depth, .sequenceEnd :: es => if depth ≤ 1 then es else skipNode (depth - 1) es
  | depth, _ :: es => if depth = 0 then es else skipNode depth es

/-- Reads the members of a mapping, `seen` being the fields met before. -/
def yamlMembers (d : Document) :
    Nat → List String → List Yaml.Event → Config → Except Problem Config
  | 0, _, _, c => .ok c
  | _ + 1, _, [], c => .ok c
  | _ + 1, _, .mappingEnd :: _, c => .ok c
  | fuel + 1, seen, key :: es, c =>
    match yamlScalar? d key with
    | none => .error (.wrongType "a field name")
    | some key =>
      match yamlField? key.text with
      | none => yamlMembers d fuel seen (skipNode 0 es) c
      | some set =>
        if seen.contains key.text then .error (.duplicateField key.text)
        else
          match es.head?.bind (yamlScalar? d) with
          | none => .error (.wrongType "a scalar")
          | some s =>
            match set s c with
            | .error e => .error e
            | .ok c => yamlMembers d fuel (key.text :: seen) es.tail c

def ofYaml (d : Document) : Except Problem Config :=
  match d.events with
  | [] => .ok standard
  | .scalar s :: _ =>
    if s.layout = .plain ∧ s.text = "" then .ok standard else .error (.wrongType "a mapping")
  | .mappingStart :: es => yamlMembers d (es.length + 1) [] es standard
  | _ => .error (.wrongType "a mapping")

def ofYamlText (text : String) : Except Problem Config :=
  match Document.ofText text with
  | .error e => .error e
  | .ok d => ofYaml d

end PluginHost.Config
