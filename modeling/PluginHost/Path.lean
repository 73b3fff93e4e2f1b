import PluginHost.Text.Utf8

/-!
# Paths

A path is a list of bytes, its components separated by slashes.  Empty components and single points
do not count.  The extension of a file name is what follows its last point, unless that point is
its first character.
-/

namespace PluginHost

/-- A path, as its bytes. -/
structure Path where
  bytes : List UInt8
deriving DecidableEq, Repr, Inhabited

namespace Path

/-- The byte that separates components. -/
def slash : UInt8 := 47

def point : UInt8 := 46

def ofString (s : String) : Path := ⟨Utf8.ofString s⟩

/-- The text of a path that is UTF-8. -/
def text? (p : Path) : Option String := Utf8.string? p.bytes

/-- The text of a path, with U+FFFD for what is not UTF-8. -/
def display (p : Path) : String := Utf8.stringLossy p.bytes

def isAbsolute (p : Path) : Bool := p.bytes.head? = some slash

/-- The pieces of a byte list between separators. -/
def split (sep : UInt8) : List UInt8 → List (List UInt8)
  | [] => [[]]
  | b :: bs =>
    if b = sep then [] :: split sep bs
    else
      match split sep bs with
      | [] => [[b]]
      | s :: ss => (b :: s) :: ss

/-- The components that count. -/
def components (p : Path) : List (List UInt8) :=
  (split slash p.bytes).filter fun c => c ≠ [] ∧ c ≠ [point]

/-- A path below another, or the second path itself where it starts at the root. -/
def join (dir : Path) (p : Path) : Path :=
  if p.isAbsolute then p
  else if dir.bytes = [] ∨ dir.bytes.getLast? = some slash then ⟨dir.bytes ++ p.bytes⟩
  else ⟨dir.bytes ++ slash :: p.bytes⟩

/-- The last component, unless it leads upwards. -/
def fileName? (p : Path) : Option (List UInt8) :=
  match p.components.getLast? with
  | none => none
  | some c => if c = [point, point] then none else some c

/-- What stands before and behind the last point. -/
def splitLast : List UInt8 → Option (List UInt8 × List UInt8)
  | [] => none
  | b :: bs =>
    match splitLast bs with
    | some (l, r) => some (b :: l, r)
    | none => if b = point then some ([], bs) else none

/-- Stem and extension of a file name. -/
def splitName (name : List UInt8) : List UInt8 × Option (List UInt8) :=
  match splitLast name with
  | none => (name, none)
  | some ([], _) => (name, none)
  | some (stem, ext) => (stem, some ext)

def stem? (p : Path) : Option (List UInt8) := p.fileName?.map fun n => (splitName n).1

def extension? (p : Path) : Option (List UInt8) := p.fileName?.bind fun n => (splitName n).2

end Path

end PluginHost
