import PluginHost.Toml.Value

/-!
# Documents of TOML

A document is a list of lines: keys with their values, and headers that open the table to which the
keys after them belong.

    Document.ofText       the members of the document's own table
-/

namespace PluginHost.Toml

/-! ## Values -/

/-- The text behind blanks, line breaks and comments. -/
def skipGap : Nat → List Char → List Char
  | 0, cs => cs
  | fuel + 1, cs =>
    let cs := skipComment (skipBlanks cs)
    match afterBreak? cs with
    | some cs => skipGap fuel cs
    | none => cs

/-- The text behind a word, if it starts with it. -/
def afterWord (word : String) (cs : List Char) : Except Problem (List Char) :=
  if cs.take word.length = word.toList then .ok (cs.drop word.length) else .error .unexpectedText

def readNumberOrDate (cs : List Char) : Except Problem (Value × List Char) :=
  match afterDateTime? cs with
  | some r => .ok (.dateTime (String.ofList (cs.take (cs.length - r.length))), r)
  | none =>
    (readNumber cs).map fun
      | (.integer n, r) => (.integer n, r)
      | (.float text, r) => (.float text, r)

mutual

/-- Reads a value; `depth` collections are open. -/
def readValue (fuel depth : Nat) (cs : List Char) : Except Problem (Value × List Char) :=
  match fuel with
  | 0 => .error .unexpectedText
  | fuel + 1 =>
    match cs with
    | [] => .error .unexpectedText
    | c :: rest =>
      if c = '"' ∨ c = '\'' then
        (readQuoted c cs).map fun (s, r) => (.string (String.ofList s), r)
      else if c = '[' then
        if depthLimit ≤ depth + 1 then .error .tooDeep
        else
          match skipGap (rest.length + 1) rest with
          | ']' :: r => .ok (.array [], r)
          | _ => (readItems fuel (depth + 1) rest).map fun (items, r) => (.array items, r)
      else if c = '\x7b' then
        if depthLimit ≤ depth + 1 then .error .tooDeep
        else
          match skipBlanks rest with
          | '\x7d' :: r => .ok (.table .inline [], r)
          | rest => do
            let (entries, r) ← readEntries fuel (depth + 1) rest
            let members ← inlineMembers entries
            return (.table .inline members, r)
      else if c = 't' then (afterWord "true" cs).map fun r => (.boolean true, r)
      else if c = 'f' then (afterWord "false" cs).map fun r => (.boolean false, r)
      else readNumberOrDate cs

/-- Reads the items of an array, at least one, up to its end; a comma may follow the last. -/
def readItems (fuel depth : Nat) (cs : List Char) : Except Problem (List Value × List Char) :=
  match fuel with
  | 0 => .error .unexpectedText
  | fuel + 1 => do
    let (v, r) ← readValue fuel depth (skipGap (cs.length + 1) cs)
    match skipGap (r.length + 1) r with
    | ']' :: r => return ([v], r)
    | ',' :: r =>
      match skipGap (r.length + 1) r with
      | ']' :: r => return ([v], r)
      | r =>
        let (vs, r) ← readItems fuel depth r
        return (v :: vs, r)
    | _ => .error .unexpectedText

/-- Reads the entries of a table in braces, at least one, up to its end. -/
def readEntries (fuel depth : Nat) (cs : List Char) :
    Except Problem (List (List String × String × Value) × List Char) :=
  match fuel with
  | 0 => .error .unexpectedText
  | fuel + 1 => do
    let (path, key, r) ← readKey cs
    match r with
    | '=' :: r =>
      let (v, r) ← readValue fuel depth (skipBlanks r)
      match skipBlanks r with
      | '\x7d' :: r => return ([(path, key, v)], r)
      | ',' :: r =>
        let (es, r) ← readEntries fuel depth r
        return ((path, key, v) :: es, r)
      | _ => .error .unexpectedText
    | _ => .error .unexpectedText

end

/-! ## Lines -/

/-- A document read in part: the path of the header that the next keys belong to, and all members
so far. -/
structure Document where
  header : List String
  members : Members
deriving Repr, Inhabited

namespace Document

/-- Does something to the document's own table. -/
def edit (f : Edit) (d : Document) : Except Problem Document :=
  (f .header d.members).map fun (_, ms) => { d with members := ms }

def readKeyLine (d : Document) (cs : List Char) : Except Problem (Document × List Char) := do
  let (path, key, r) ← readKey cs
  match r with
  | '=' :: r =>
    let (v, r) ← readValue (2 * r.length + 2) 0 (skipBlanks r)
    let r ← endLine r
    let d ← d.edit (Edit.along false (Edit.define path key v) d.header)
    return (d, r)
  | _ => .error .unexpectedText

/-- Reads a header behind its first bracket. -/
def readHeader (d : Document) (cs : List Char) : Except Problem (Document × List Char) := do
  match cs with
  | '[' :: cs =>
    let (path, key, r) ← readKey cs
    match r with
    | ']' :: ']' :: r =>
      let r ← endLine r
      let d ← d.edit (Edit.nextHeader path key)
      return ({ d with header := path ++ [key] }, r)
    | _ => .error .unexpectedText
  | cs =>
    let (path, key, r) ← readKey cs
    match r with
    | ']' :: r =>
      let r ← endLine r
      let d ← d.edit (Edit.header path key)
      return ({ d with header := path ++ [key] }, r)
    | _ => .error .unexpectedText

def readLines : Nat → Document → List Char → Except Problem Document
  | 0, _, _ => .error .unexpectedText
  | fuel + 1, d, cs =>
    match skipBlanks cs with
    | [] => .ok d
    | c :: rest =>
      if c = '#' ∨ c = '\n' ∨ c = '\r' then
        match endLine (c :: rest) with
        | .error e => .error e
        | .ok r => readLines fuel d r
      else
        match (if c = '[' then d.readHeader rest else d.readKeyLine (c :: rest)) with
        | .error e => .error e
        | .ok (d, r) => readLines fuel d r

/-- Reads a document; a byte order mark may stand in front. -/
def ofText (text : String) : Except Problem Members :=
  let cs := text.toList
  let cs := if cs.head? = some (Char.ofNat 0xFEFF) then cs.tail else cs
  (readLines (cs.length + 1) ⟨[], []⟩ cs).map Document.members

end Document

end PluginHost.Toml
