import PluginHost.Backend
import PluginHost.Component

/-!
# Values as text

The wording in which values are shown to developers: the name of a record with its fields between
braces, two points standing for fields that are not shown.
-/

namespace PluginHost.Inspect

/-! ## Shapes -/

def openBrace : String := String.singleton Json.openBrace

def closeBrace : String := String.singleton Json.closeBrace

/-- A record with the fields shown; `hidden` says that there are more. -/
def record (name : String) (fields : List (String × String)) (hidden : Bool) : String :=
  let shown := fields.map fun f => f.1 ++ ": " ++ f.2
  let all := if hidden then shown ++ [".."] else shown
  name ++ " " ++ openBrace ++ " " ++ ", ".intercalate all ++ " " ++ closeBrace

def list (items : List String) : String := "[" ++ ", ".intercalate items ++ "]"

def option : Option String → String
  | none => "None"
  | some s => "Some(" ++ s ++ ")"

def bool (b : Bool) : String := if b then "true" else "false"

/-! ## Paths -/

/-- A byte that belongs to no character. -/
def pathByte (b : UInt8) : List Char :=
  let digit (n : Nat) : Char := if n < 10 then Char.ofNat (48 + n) else Char.ofNat (55 + n)
  ['\\', 'x', digit (b.toNat / 16), digit (b.toNat % 16)]

/-- The bytes of a path between quotes. -/
def pathChars : List UInt8 → List Char
  | [] => []
  | b :: rest =>
    match Utf8.next b rest with
    | (some c, k) => Quoted.escape c ++ pathChars (rest.drop k)
    | (none, k) => pathByte b ++ (rest.take k).flatMap pathByte ++ pathChars (rest.drop k)
termination_by bs => bs.length
decreasing_by all_goals (simp only [List.length_drop, List.length_cons]; omega)

def path (p : Path) : String := String.ofList ('"' :: pathChars p.bytes ++ ['"'])

/-! ## JSON -/

mutual

def json : Json.Value → String
  | .null => "Null"
  | .bool b => "Bool(" ++ bool b ++ ")"
  | .number n => "Number(" ++ String.ofList n.text ++ ")"
  | .string s => "String(" ++ Quoted.quote s ++ ")"
  | .array items => "Array [" ++ jsonItems items ++ "]"
  | .object members => "Object " ++ openBrace ++ jsonMembers members ++ closeBrace

def jsonItems : List Json.Value → String
  | [] => ""
  | [v] => json v
  | v :: rest => json v ++ ", " ++ jsonItems rest

def jsonMembers : List (String × Json.Value) → String
  | [] => ""
  | [(k, v)] => Quoted.quote k ++ ": " ++ json v
  | (k, v) :: rest => Quoted.quote k ++ ": " ++ json v ++ ", " ++ jsonMembers rest

end

def values (vs : Values) : String := openBrace ++ jsonMembers vs ++ closeBrace

/-! ## Values of the host -/

variable {σ ν : Type}

def dependency {γ : Type} (d : Dependency γ) : String :=
  record "Dependency"
    [("id", Nat.repr d.id), ("plugin", Quoted.quote d.plugin),
      ("priority", Nat.repr d.priority.toNat), ("kind", d.kind.label), ("key", Quoted.quote d.key),
      ("has_arg", bool d.arg.isSome)] false

def plugin (p : Plugin σ ν) : String :=
  record "Plugin"
    [("name", Quoted.quote p.name), ("hooks", list (p.hooks.map HookKind.label)),
      ("path", option (p.path.map path))] false

def config (c : Config) : String :=
  record "BackendConfig"
    [("backend_dir", path c.backendDir), ("system_dir", option (c.systemDir.map path)),
      ("master_plugin", option (c.masterPlugin.map Quoted.quote)),
      ("plugin_extension", Quoted.quote c.pluginExtension),
      ("running_db", Quoted.quote c.runningDb), ("candidate_db", Quoted.quote c.candidateDb),
      ("reset_on_start", bool c.resetOnStart)] false

/-- The handle that hooks get. -/
def handle (c : Config) : String := record "Handle" [("config", config c)] true

def transaction (tx : Transaction) : String :=
  record "TransactionContext"
    [("id", Nat.repr tx.id), ("source_db", Quoted.quote tx.source),
      ("target_db", Quoted.quote tx.target), ("changes", Nat.repr tx.changes.length),
      ("state", tx.state.label)] true

def view (v : ChangeView) : String :=
  record "CommitData"
    [("source_db", Quoted.quote v.sourceDb), ("target_db", Quoted.quote v.targetDb),
      ("source_key", option (v.sourceKey.map Quoted.quote)),
      ("target_key", option (v.targetKey.map Quoted.quote)),
      ("source_values", option (v.sourceValues.map values)),
      ("target_values", option (v.targetValues.map values)),
      ("changes", Nat.repr v.changes.length)] true

/-- The right to register dependencies for a plugin, if the plugin is registered. -/
def registrar (d : Dispatcher σ ν) (name : String) : String :=
  match d.registry.get? name with
  | some p => "Ok(" ++ record "Registrar" [("plugin", Quoted.quote p.name)] true ++ ")"
  | none => "Err(" ++ record "UnknownPlugin" [("name", Quoted.quote name)] false ++ ")"

def manager (m : Manager σ ν) : String :=
  record Manager.name
    [("name", Quoted.quote Manager.name), ("plugin_dirs", list (m.loader.dirs.map path))] true

def backend (b : Backend σ ν) : String :=
  record "Backend"
    [("initialized", bool b.isSetUp), ("started", bool b.isStarted),
      ("handle", handle b.config)] true

/-- A registry of components with the given names. -/
def components (names : List String) : String :=
  record "ComponentRegistry" [("components", list (names.map Quoted.quote))] false

end PluginHost.Inspect
