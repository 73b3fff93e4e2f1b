import PluginHost.Number.Binary64

/-!
# JSON values

Numbers are integers of at most 64 bits or doubles; the members of an object are a list, which
readers keep in the order of the names with the last value of a repeated name (`insert`).
-/

namespace PluginHost.Json

/-- A number: an integer, or a double. -/
inductive Number where
  | int (n : Int)
  | float (x : Binary64)
deriving DecidableEq, Repr, Inhabited

/-- Equality of numbers of the same sort; the two zeros of a double are equal. -/
def Number.same : Number → Number → Bool
  | .int a, .int b => a = b
  | .float x, .float y => x.same y
  | _, _ => false

inductive Value where
  | null
  | bool (b : Bool)
  | number (n : Number)
  | string (s : String)
  | array (items : List Value)
  | object (members : List (String × Value))
deriving Repr, Inhabited

namespace Value

def int (n : Int) : Value := .number (.int n)

def nat (n : Nat) : Value := .number (.int n)

/-- A text, or null. -/
def optString : Option String → Value
  | none => .null
  | some s => .string s

mutual

/-- Equality of values, numbers compared by `Number.same`. -/
def same : Value → Value → Bool
  | .null, .null => true
  | .bool a, .bool b => a = b
  | .number a, .number b => a.same b
  | .string a, .string b => a = b
  | .array a, .array b => sameItems a b
  | .object a, .object b => sameMembers a b
  | _, _ => false

def sameItems : List Value → List Value → Bool
  | [], [] => true
  | a :: as, b :: bs => same a b && sameItems as bs
  | _, _ => false

def sameMembers : List (String × Value) → List (String × Value) → Bool
  | [], [] => true
  | (k, a) :: as, (l, b) :: bs => k = l && same a b && sameMembers as bs
  | _, _ => false

end

def get? (name : String) : Value → Option Value
  | .object members => (members.find? fun m => m.1 = name).map (·.2)
  | _ => none

/-- The text in a member; empty if there is none. -/
def textIn (j : Value) (name : String) : String :=
  match j.get? name with
  | some (.string s) => s
  | _ => ""

/-- The integer in a member; zero if there is none. -/
def intIn (j : Value) (name : String) : Int :=
  match j.get? name with
  | some (.number (.int n)) => n
  | _ => 0

def itemsIn (j : Value) (name : String) : List Value :=
  match j.get? name with
  | some (.array vs) => vs
  | _ => []

end Value

/-- Puts a value under a name into members sorted by name, in place of an older one. -/
def insert (name : String) (v : Value) : List (String × Value) → List (String × Value)
  | [] => [(name, v)]
  | (k, w) :: rest =>
    if name = k then (name, v) :: rest
    else if name < k then (name, v) :: (k, w) :: rest
    else (k, w) :: insert name v rest

end PluginHost.Json
