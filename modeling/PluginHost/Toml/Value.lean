import PluginHost.Toml.Scalar

/-!
# Values and tables of TOML

A table remembers how it came to be, for that decides what may still be added to it: one with a
header or in braces is complete, one that only stands in the path of a header may get a header of
its own, and one made by the points of a key may get more keys in the same way.
-/

namespace PluginHost.Toml

/-- How a table came to be: by a header (or as the document itself), in the path of a header, by the
points of a key, or in braces. -/
inductive Origin where
  | header
  | implied
  | dotted
  | inline
deriving DecidableEq, Repr, Inhabited

/-- A value.  Numbers with a point and dates are kept as they are written; `tables` are those under
headers in double brackets. -/
inductive Value where
  | string (s : String)
  | boolean (b : Bool)
  | integer (n : Int)
  | float (text : String)
  | dateTime (text : String)
  | array (items : List Value)
  | table (origin : Origin) (members : List (String × Value))
  | tables (items : List (List (String × Value)))
deriving Repr, Inhabited

abbrev Members := List (String × Value)

/-- Puts a value in place of the one that a key has. -/
def replace (key : String) (v : Value) (ms : Members) : Members :=
  ms.map fun (k, old) => if k = key then (k, v) else (k, old)

/-- What is done to the table at the end of a path. -/
abbrev Edit := Origin → Members → Except Problem (Origin × Members)

/-- Whether a path may lead through a table. -/
def Origin.isOpen (byDots : Bool) : Origin → Bool
  | .header => !byDots
  | .implied => true
  | .dotted => true
  | .inline => false

/-- Does something to the table at the end of a path.  The path goes by the points of a key or by
those of a header; tables that are missing on it are made, and of several tables under one header
it goes to the last. -/
def Edit.along (byDots : Bool) (f : Edit) : List String → Edit
  | [], origin, ms => f origin ms
  | key :: path, origin, ms =>
    match ms.lookup key with
    | none => do
      let (o, new) ← Edit.along byDots f path (if byDots then .dotted else .implied) []
      return (origin, ms ++ [(key, .table o new)])
    | some (.table o old) =>
      if o.isOpen byDots then do
        let (o, new) ← Edit.along byDots f path o old
        return (origin, replace key (.table o new) ms)
      else .error (.duplicateKey key)
    | some (.tables items) => do
      let (_, new) ← Edit.along byDots f path .header (items.getLast?.getD [])
      return (origin, replace key (.tables (items.dropLast ++ [new])) ms)
    | some _ => .error (.notATable key)

/-- Adds a key with its value; a table that was not made by points takes no keys by points. -/
def Edit.define (path : List String) (key : String) (v : Value) : Edit :=
  Edit.along true
    (fun origin ms =>
      if (origin == .dotted) == path.isEmpty || (ms.lookup key).isSome then
        .error (.duplicateKey key)
      else .ok (origin, ms ++ [(key, v)]))
    path

/-- Opens the table of a header. -/
def Edit.header (path : List String) (key : String) : Edit :=
  Edit.along false
    (fun origin ms =>
      match ms.lookup key with
      | none => .ok (origin, ms ++ [(key, .table .header [])])
      | some (.table .implied old) => .ok (origin, replace key (.table .header old) ms)
      | some _ => .error (.duplicateKey key))
    path

/-- Opens the next table of a header in double brackets. -/
def Edit.nextHeader (path : List String) (key : String) : Edit :=
  Edit.along false
    (fun origin ms =>
      match ms.lookup key with
      | none => .ok (origin, ms ++ [(key, .tables [[]])])
      | some (.tables items) => .ok (origin, replace key (.tables (items ++ [[]])) ms)
      | some _ => .error (.duplicateKey key))
    path

/-- The members of the table in braces with the given keys. -/
def inlineMembers (entries : List (List String × String × Value)) : Except Problem Members :=
  (entries.foldlM
    (fun (ms : Members) (path, key, v) => (Edit.define path key v .inline ms).map Prod.snd) [])

end PluginHost.Toml
