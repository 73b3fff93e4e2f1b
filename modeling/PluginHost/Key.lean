/-!
# Configuration keys

A key is a text of segments separated by points, such as `interfaces.eth0.mtu`.  Keys of changes
may be any text; only keys that dependencies are registered on are checked.

    fault?     why a text is no well-formed key
    covers     whether a key lies in the subtree of another
    ancestors  a key and all its ancestors, nearest first
    segments   the segments, in order
-/

namespace PluginHost.Key

/-! ## Algorithm -/

def separator : Char := '.'

/-- The segments of a key; there is always one. -/
def segments : List Char → List (List Char)
  | [] => [[]]
  | c :: cs =>
    if c = separator then [] :: segments cs
    else
      match segments cs with
      | [] => [[c]]
      | s :: ss => (c :: s) :: ss

inductive Fault where
  | empty
  | edgeSeparator
  | emptySegment
deriving DecidableEq, Repr, Inhabited

def Fault.text : Fault → String
  | .empty => "key is empty"
  | .edgeSeparator => "leading or trailing separator"
  | .emptySegment => "empty segment"

/-- What is wrong with a key, if anything. -/
def faultChars? (cs : List Char) : Option Fault :=
  if cs = [] then some .empty
  else if cs.head? = some separator ∨ cs.getLast? = some separator then some .edgeSeparator
  else if [] ∈ segments cs then some .emptySegment
  else none

/-- What is left of a text behind a given beginning. -/
def after? : List Char → List Char → Option (List Char)
  | [], cs => some cs
  | _ :: _, [] => none
  | r :: rs, c :: cs => if r = c then after? rs cs else none

/-- Whether the subtree at `root` contains the key. -/
def coversChars (root cs : List Char) : Bool :=
  match after? root cs with
  | none => false
  | some [] => true
  | some (c :: _) => c = separator

/-- The key without its last segment, if it has more than one. -/
def parent? : List Char → Option (List Char)
  | [] => none
  | c :: cs =>
    match parent? cs with
    | some p => some (c :: p)
    | none => if c = separator then some [] else none

theorem length_parent? {cs p : List Char} (h : parent? cs = some p) : p.length < cs.length := by
  induction cs generalizing p with
  | nil => simp [parent?] at h
  | cons c cs ih =>
    unfold parent? at h
    split at h
    · rename_i q hq
      obtain rfl : c :: q = p := by simpa using h
      have := ih hq
      simp only [List.length_cons]
      omega
    · split at h
      · obtain rfl : [] = p := by simpa using h
        simp
      · simp at h

/-- The key and its ancestors, nearest first. -/
def ancestorsChars (cs : List Char) : List (List Char) :=
  cs ::
    match _h : parent? cs with
    | none => []
    | some p => ancestorsChars p
termination_by cs.length
decreasing_by exact length_parent? _h

/-! ## On texts -/

def fault? (key : String) : Option Fault := faultChars? key.toList

def covers (root key : String) : Bool := coversChars root.toList key.toList

def ancestors (key : String) : List String := (ancestorsChars key.toList).map String.ofList

end PluginHost.Key
