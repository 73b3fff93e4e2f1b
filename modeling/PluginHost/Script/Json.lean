import PluginHost.Json.Value
import PluginHost.Script

/-!
# Scripted plugins as JSON

A plan is an object with the name of the plugin and, for each hook by its short name, an array of
actions.  An action is an object that names what to `do`, with the fields it needs, and in
`if_call` and `if_op` when it is taken.  A datum is an object with its type as the only name.
-/

namespace PluginHost

/-! ## Data -/

/-- The value of a datum as JSON, without its type. -/
def Datum.bare : Datum → Json.Value
  | .string s => .string s
  | .u32 n => .nat n.toNat
  | .i64 n => .int n.toInt
  | .bool b => .bool b

def Datum.toJson (x : Datum) : Json.Value := .object [(x.kind.text, x.bare)]

def Datum.ofJson? : Json.Value → Option Datum
  | .object [("string", .string s)] => some (.string s)
  | .object [("u32", .number (.int n))] => some (.u32 (UInt32.ofNat n.toNat))
  | .object [("i64", .number (.int n))] => some (.i64 (Int64.ofInt n))
  | .object [("bool", .bool b)] => some (.bool b)
  | _ => none

namespace Script

/-! ## Fields -/

/-- The datum in a field; false if there is none. -/
def datumIn (j : Json.Value) : Datum :=
  ((j.get? "value").bind Datum.ofJson?).getD (.bool false)

def kindIn (j : Json.Value) : Dependency.Kind :=
  (Dependency.Kind.ofText? (j.textIn "kind")).getD .key

def typeIn (j : Json.Value) : Datum.Kind := (Datum.Kind.ofText? (j.textIn "type")).getD .bool

/-! ## Actions -/

def Guard.ofJson (j : Json.Value) : Guard :=
  ⟨match j.get? "if_call" with
    | some (.number (.int n)) => some n.toNat
    | _ => none,
    match j.get? "if_op" with
    | some (.string s) => some s
    | _ => none⟩

/-- The action that an object stands for; `callbacks` reads the actions of callbacks. -/
def Action.ofJson (callbacks : List Json.Value → Actions) (j : Json.Value) : Action :=
  match j.textIn "do" with
  | "fail" => .fail (j.textIn "msg")
  | "status" => .status (Int32.ofInt (j.intIn "code"))
  | "panic" => .panic (.text (j.textIn "msg"))
  | "panic_static" => .panic (.text "static boom")
  | "panic_any" => .panic .other
  | "register" =>
    .register (kindIn j) (UInt16.ofNat (j.intIn "priority").toNat) (j.textIn "key")
      ((j.get? "arg").bind Datum.ofJson?) (callbacks (j.itemsIn "cb"))
      ((j.get? "try").any fun t => t.same (.bool true))
  | "set_data" => .setData (j.textIn "key") (datumIn j)
  | "get_data" => .getData (j.textIn "key") (typeIn j)
  | "has_data" => .hasData (j.textIn "key")
  | "remove_data" => .removeData (j.textIn "key")
  | "set_arg" => .setArg (datumIn j)
  | "get_arg" => .getArg (typeIn j)
  | "has_arg" => .hasArg
  | "clear_arg" => .clearArg
  | _ => .note (j.textIn "msg")

/-- Reads actions whose callbacks nest at most `depth` deep. -/
def readActions : Nat → List Json.Value → Actions
  | 0, _ => []
  | depth + 1, js => js.map fun j => (Guard.ofJson j, Action.ofJson (readActions depth) j)

/-- How deep callbacks may nest: no deeper than JSON does. -/
def maxDepth : Nat := 64

def Plan.ofJson (j : Json.Value) : Plan :=
  let hooks :=
    match j.get? "hooks" with
    | some (.object ms) => ms
    | _ => []
  ⟨j.textIn "name", hooks.filterMap fun h =>
    (HookKind.ofWord? h.1).map fun k =>
      (k, match h.2 with
        | .array js => readActions maxDepth js
        | _ => [])⟩

end Script

end PluginHost
