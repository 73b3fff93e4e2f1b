/-!
# Shared data

A datum is a value of one of a few types, kept with its type: reading it as another type gives
nothing.  Plugins share data under names, and a dependency may carry one as its argument.
-/

namespace PluginHost

inductive Datum.Kind where
  | string
  | u32
  | i64
  | bool
deriving DecidableEq, Repr, Inhabited

def Datum.Kind.text : Datum.Kind → String
  | .string => "string"
  | .u32 => "u32"
  | .i64 => "i64"
  | .bool => "bool"

def Datum.Kind.ofText? (s : String) : Option Datum.Kind :=
  [string, u32, i64, bool].find? fun k => k.text = s

/-- A value with its type. -/
inductive Datum where
  | string (s : String)
  | u32 (n : UInt32)
  | i64 (n : Int64)
  | bool (b : Bool)
deriving DecidableEq, Repr, Inhabited

def Datum.kind : Datum → Datum.Kind
  | .string _ => .string
  | .u32 _ => .u32
  | .i64 _ => .i64
  | .bool _ => .bool

/-- The datum, if it has the given type. -/
def Datum.as? (k : Datum.Kind) (d : Datum) : Option Datum := if d.kind = k then some d else none

/-- Data under names; the first entry of a name counts. -/
structure SharedData where
  entries : List (String × Datum)
deriving Repr, Inhabited

namespace SharedData

def empty : SharedData := ⟨[]⟩

def get? (d : SharedData) (name : String) : Option Datum :=
  (d.entries.find? fun e => e.1 = name).map (·.2)

def contains (d : SharedData) (name : String) : Bool := (d.get? name).isSome

def erase (d : SharedData) (name : String) : SharedData :=
  ⟨d.entries.filter fun e => e.1 ≠ name⟩

/-- Puts a datum under a name, in place of an older one. -/
def set (d : SharedData) (name : String) (x : Datum) : SharedData :=
  ⟨(name, x) :: (d.erase name).entries⟩

end SharedData

end PluginHost
