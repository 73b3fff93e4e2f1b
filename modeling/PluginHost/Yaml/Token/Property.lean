import PluginHost.Yaml.Token

/-!
# Anchors, tags and directives

The tokens that stand in front of a node, and those that stand in front of a document.
-/

namespace PluginHost.Yaml

/-! ## Names -/

def isNameChar (c : Char) : Bool := c.isAlphanum || c = '_' || c = '-'

def readName (c : Cursor) : Except Problem (String × Cursor) :=
  let (name, c) := c.span isNameChar
  let ends := atGap c.rest || (c.rest.head?.map fun x => "?:,]\x7d%@`".toList.contains x).getD false
  if name.isEmpty || !ends then .error .badName else .ok (String.ofList name, c)

/-! ## Tags -/

/-- Whether a character may stand in a tag; `wide` allows the commas and brackets of a URI. -/
def isUriChar (wide : Bool) (c : Char) : Bool :=
  isNameChar c || ";/?:@&=+$.%!~*'()".toList.contains c || (wide && ",[]".toList.contains c)

/-- The octet that a percent sign and two digits write, at the head of a text. -/
def octet? : List Char → Option Nat
  | '%' :: a :: b :: _ => Digits.toNat? 16 [a, b]
  | _ => none

/-- The number of octets in the sequence that an octet starts. -/
def sequenceLength? (n : Nat) : Option Nat :=
  if n < 0x80 then some 1
  else if 0xC0 ≤ n ∧ n < 0xE0 then some 2
  else if 0xE0 ≤ n ∧ n < 0xF0 then some 3
  else if 0xF0 ≤ n ∧ n < 0xF8 then some 4
  else none

/-- Reads `n` escaped octets that continue a sequence. -/
def readContinuation : Nat → List Char → Cursor → Except Problem (List Char × Cursor)
  | 0, octets, c => .ok (octets, c)
  | n + 1, octets, c =>
    match octet? c.rest with
    | none => .error .badTag
    | some o =>
      if 0x80 ≤ o ∧ o < 0xC0 then readContinuation n (octets ++ [Char.ofNat o]) (c.advance 3)
      else .error .badTag

/-- Reads an escaped character.  Its octets stand for the characters of their numbers, so an
ASCII character stands for itself. -/
def readOctets (c : Cursor) : Except Problem (List Char × Cursor) :=
  match octet? c.rest with
  | none => .error .badTag
  | some o =>
    match sequenceLength? o with
    | none => .error .badTag
    | some n => readContinuation (n - 1) [Char.ofNat o] (c.advance 3)

/-- Reads the characters of a tag. -/
def readUri (wide : Bool) : Nat → List Char → Cursor → Except Problem (List Char × Cursor)
  | 0, uri, c => .ok (uri, c)
  | fuel + 1, uri, c =>
    match c.rest with
    | [] => .ok (uri, c)
    | x :: _ =>
      if x = '%' then
        match readOctets c with
        | .error e => .error e
        | .ok (octets, c) => readUri wide fuel (uri ++ octets) c
      else if isUriChar wide x then readUri wide fuel (uri ++ [x]) c.skip
      else .ok (uri, c)

/-- Reads a tag that may not be empty. -/
def readUri1 (wide : Bool) (c : Cursor) : Except Problem (List Char × Cursor) :=
  match readUri wide (c.rest.length + 1) [] c with
  | .error e => .error e
  | .ok ([], _) => .error .badTag
  | .ok (uri, c) => .ok (uri, c)

/-- Reads `!`, and a name and a second `!` if they follow. -/
def readHandle (c : Cursor) : Except Problem (List Char × Cursor) :=
  if c.isAt '!' then
    let (name, c) := c.skip.span isNameChar
    if c.isAt '!' then .ok ('!' :: name ++ ['!'], c.skip) else .ok ('!' :: name, c)
  else .error .badTag

/-- Reads the handle of a tag and what follows it.  A tag between angles has the empty handle, and
so has the tag `!`. -/
def readTagParts (c : Cursor) : Except Problem (List Char × List Char × Cursor) :=
  if c.rest.take 2 = ['!', '<'] then
    match readUri1 true (c.advance 2) with
    | .error e => .error e
    | .ok (uri, c) => if c.isAt '>' then .ok ([], uri, c.skip) else .error .badTag
  else
    match readHandle c with
    | .error e => .error e
    | .ok (handle, c) =>
      if 2 ≤ handle.length ∧ handle.getLast? = some '!' then
        (readUri1 false c).map fun (rest, c) => (handle, rest, c)
      else
        match readUri false (c.rest.length + 1) handle.tail c with
        | .error e => .error e
        | .ok ([], c) => .ok ([], ['!'], c)
        | .ok (rest, c) => .ok (['!'], rest, c)

/-- Reads a tag; between brackets a comma may follow it directly. -/
def readTag (inFlow : Bool) (c : Cursor) : Except Problem (Token × Cursor) :=
  match readTagParts c with
  | .error e => .error e
  | .ok (handle, rest, c) =>
    if (inFlow && c.isAt ',') || atGap c.rest then
      .ok (.tag (String.ofList handle) (String.ofList rest), c)
    else .error .badTag

/-! ## Directives -/

/-- Reads a number of at most nine digits. -/
def readVersionNumber (c : Cursor) : Except Problem (Nat × Cursor) :=
  let (ds, c) := c.span Char.isDigit
  if ds.isEmpty ∨ 9 < ds.length then .error .badDirective else .ok (Digits.toNat 10 ds, c)

/-- Reads the version of a directive. -/
def readVersion (c : Cursor) : Except Problem (Token × Cursor) :=
  match readVersionNumber (c.skipWhile isBlank) with
  | .error e => .error e
  | .ok (major, c) =>
    if c.isAt '.' then
      (readVersionNumber c.skip).map fun (minor, c) => (.version major minor, c)
    else .error .badDirective

/-- Reads the handle and the start of tags of a directive. -/
def readTagHandle (c : Cursor) : Except Problem (Token × Cursor) :=
  match readHandle (c.skipWhile isBlank) with
  | .error e => .error e
  | .ok (handle, c) =>
    if handle ≠ ['!'] ∧ (handle.length < 2 ∨ handle.getLast? ≠ some '!') then .error .badDirective
    else if (c.rest.head?.map isBlank).getD false then
      match readUri1 true (c.skipWhile isBlank) with
      | .error e => .error e
      | .ok (uri, c) =>
        if atGap c.rest then .ok (.tagHandle (String.ofList handle) (String.ofList uri), c)
        else .error .badDirective
    else .error .badDirective

/-- Reads a directive and the end of its line. -/
def readDirective (c : Cursor) : Except Problem (Token × Cursor) :=
  let (name, c) := c.skip.span isNameChar
  let content :=
    if !atGap c.rest then .error .badDirective
    else if String.ofList name = "YAML" then readVersion c
    else if String.ofList name = "TAG" then readTagHandle c
    else .error .badDirective
  match content with
  | .error e => .error e
  | .ok (t, c) => (c.finishLine .badDirective).map fun c => (t, c)

end PluginHost.Yaml
