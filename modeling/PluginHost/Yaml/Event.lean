import PluginHost.Yaml.Token.Lexer

/-!
# Documents of YAML

A document is the list of its events: scalars, aliases and the two ends of collections, in the
order in which they stand in the text.  A mapping has keys and values in turn; what is left out
is an empty plain scalar.

    Document.ofTokens?    reads the only document of a text
    Document.ofText       the same from the text
-/

namespace PluginHost.Yaml

/-- A scalar with its full tag, if it has one. -/
structure Scalar where
  tag : Option String
  layout : Layout
  text : String
deriving DecidableEq, Repr, Inhabited

/-- A scalar that is left out. -/
def Scalar.absent : Scalar := ⟨none, .plain, ""⟩

/-- An event; an alias holds the number of its anchor. -/
inductive Event where
  | scalar (s : Scalar)
  | alias (anchor : Nat)
  | sequenceStart
  | sequenceEnd
  | mappingStart
  | mappingEnd
deriving DecidableEq, Repr, Inhabited

/-- A document: its events, and for each anchor the event that it stands in front of. -/
structure Document where
  events : List Event
  anchored : List (Nat × Event)
deriving DecidableEq, Repr, Inhabited

namespace Document

def empty : Document := ⟨[], []⟩

/-- The event with an anchor; of several with one number the last counts. -/
def find? (d : Document) (anchor : Nat) : Option Event := d.anchored.reverse.lookup anchor

/-! ## Reading -/

/-- A document read in part, with the tokens that follow.  `names` holds the number of each
anchor's name. -/
structure Reader where
  tokens : List Token
  events : Array Event
  names : List (String × Nat)
  anchored : List (Nat × Event)
  handles : List (String × String)
deriving DecidableEq, Repr, Inhabited

namespace Reader

def next (r : Reader) : Reader := { r with tokens := r.tokens.tail }

/-- Adds an event. -/
def push (e : Event) (r : Reader) : Reader := { r with events := r.events.push e }

def pushAbsent (r : Reader) : Reader := r.push (.scalar .absent)

/-- Adds the first event of a node.  An anchor is numbered by the names there are; a name may be
given again, and then no name is added. -/
def pushNode (anchor : Option String) (e : Event) (r : Reader) : Reader :=
  match anchor with
  | none => r.push e
  | some name =>
    let n := r.names.length
    let names := r.names.filter fun (other, _) => other ≠ name
    { r.push e with names := (name, n) :: names, anchored := r.anchored ++ [(n, e)] }

/-- Whether the next token is one of the given ones. -/
def isAt (ts : List Token) (r : Reader) : Bool :=
  (r.tokens.head?.map ts.contains).getD false

def pushAlias (name : String) (r : Reader) : Except Problem Reader :=
  match r.names.lookup name with
  | none => .error (.undefinedAlias name)
  | some n => .ok (r.push (.alias n))

/-- The full tag that a handle and the rest write. -/
def fullTag (handle rest : String) (r : Reader) : Except Problem String :=
  if handle.isEmpty then .ok rest
  else
    match r.handles.lookup handle with
    | none => .error (.undefinedTag handle)
    | some uri => .ok (uri ++ rest)

def anchor (r : Reader) : Option String × Reader :=
  match r.tokens with
  | .anchor name :: ts => (some name, { r with tokens := ts })
  | _ => (none, r)

def tag (r : Reader) : Except Problem (Option String × Reader) :=
  match r.tokens with
  | .tag handle rest :: ts =>
    (r.fullTag handle rest).map fun t => (some t, { r with tokens := ts })
  | _ => .ok (none, r)

/-- Reads the anchor and the tag of a node, in either order. -/
def properties (r : Reader) : Except Problem (Option String × Option String × Reader) := do
  let (a, r) := r.anchor
  let (t, r) ← r.tag
  match a with
  | some a => return (some a, t, r)
  | none =>
    if t.isSome then
      let (a, r) := r.anchor
      return (a, t, r)
    else return (none, none, r)

/-- Where a node stands: whether block collections may start there, and whether a sequence may
start without being indented. -/
inductive Place where
  | flow
  | block
  | blockValue
deriving DecidableEq, Repr, Inhabited

mutual

def node (fuel : Nat) (place : Place) (r : Reader) : Except Problem Reader :=
  match fuel with
  | 0 => .error .unexpectedToken
  | fuel + 1 =>
    match r.tokens with
    | .alias name :: _ => r.next.pushAlias name
    | _ =>
      match r.properties with
      | .error e => .error e
      | .ok (anchor, tag, r) =>
        match r.tokens, place with
        | .entry :: _, .blockValue =>
          indentlessSequence fuel (r.pushNode anchor .sequenceStart)
        | .scalar layout text :: _, _ =>
          .ok (r.next.pushNode anchor (.scalar ⟨tag, layout, text⟩))
        | .flowSequence :: _, _ =>
          flowSequence fuel true (r.next.pushNode anchor .sequenceStart)
        | .flowMapping :: _, _ =>
          flowMapping fuel true (r.next.pushNode anchor .mappingStart)
        | t :: _, place =>
          if t = .blockSequence ∧ place ≠ .flow then
            blockSequence fuel (r.next.pushNode anchor .sequenceStart)
          else if t = .blockMapping ∧ place ≠ .flow then
            blockMapping fuel (r.next.pushNode anchor .mappingStart)
          else absent anchor tag r
        | [], _ => absent anchor tag r

/-- A node of which only the anchor or the tag is written. -/
def absent (anchor tag : Option String) (r : Reader) : Except Problem Reader :=
  if anchor.isNone && tag.isNone then .error .unexpectedToken
  else .ok (r.pushNode anchor (.scalar ⟨tag, .plain, ""⟩))

/-- Reads a node, or nothing before one of the given tokens. -/
def nodeUnless (fuel : Nat) (ends : List Token) (place : Place) (r : Reader) :
    Except Problem Reader :=
  match fuel with
  | 0 => .error .unexpectedToken
  | fuel + 1 => if r.isAt ends then .ok r.pushAbsent else node fuel place r

def blockSequence (fuel : Nat) (r : Reader) : Except Problem Reader :=
  match fuel with
  | 0 => .error .unexpectedToken
  | fuel + 1 =>
    match r.tokens with
    | .entry :: _ => do
      let r ← nodeUnless fuel [.entry, .blockEnd] .block r.next
      blockSequence fuel r
    | .blockEnd :: _ => .ok (r.next.push .sequenceEnd)
    | _ => .error .unexpectedToken

/-- Reads the entries of a sequence that has no indentation of its own. -/
def indentlessSequence (fuel : Nat) (r : Reader) : Except Problem Reader :=
  match fuel with
  | 0 => .error .unexpectedToken
  | fuel + 1 =>
    match r.tokens with
    | .entry :: _ => do
      let r ← nodeUnless fuel [.entry, .key, .value, .blockEnd] .block r.next
      indentlessSequence fuel r
    | _ => .ok (r.push .sequenceEnd)

def blockMapping (fuel : Nat) (r : Reader) : Except Problem Reader :=
  match fuel with
  | 0 => .error .unexpectedToken
  | fuel + 1 =>
    match r.tokens with
    | .key :: _ => do
      let r ← nodeUnless fuel [.key, .value, .blockEnd] .blockValue r.next
      let r ←
        match r.tokens with
        | .value :: _ => nodeUnless fuel [.key, .value, .blockEnd] .blockValue r.next
        | _ => .ok r.pushAbsent
      blockMapping fuel r
    | .blockEnd :: _ => .ok (r.next.push .mappingEnd)
    | _ => .error .unexpectedToken

/-- Reads the items of a sequence in brackets; `first` tells that no comma is due. -/
def flowSequence (fuel : Nat) (first : Bool) (r : Reader) : Except Problem Reader :=
  match fuel with
  | 0 => .error .unexpectedToken
  | fuel + 1 =>
    if r.isAt [.flowSequenceEnd] then .ok (r.next.push .sequenceEnd)
    else if !first && !r.isAt [.comma] then .error .unexpectedToken
    else
      let r := if first then r else r.next
      match r.tokens with
      | .key :: _ => do
        let r ← pair fuel (r.next.push .mappingStart)
        flowSequence fuel false r
      | .flowSequenceEnd :: _ => .ok (r.next.push .sequenceEnd)
      | _ => do
        let r ← node fuel .flow r
        flowSequence fuel false r

/-- Reads a key and a value as an item of a sequence in brackets.  A key that is left out takes
the next token with it. -/
def pair (fuel : Nat) (r : Reader) : Except Problem Reader :=
  match fuel with
  | 0 => .error .unexpectedToken
  | fuel + 1 => do
    let r ←
      if r.isAt [.value, .comma, .flowSequenceEnd] then .ok r.next.pushAbsent
      else node fuel .flow r
    let r ←
      match r.tokens with
      | .value :: _ => nodeUnless fuel [.comma, .flowSequenceEnd] .flow r.next
      | _ => .ok r.pushAbsent
    return r.push .mappingEnd

/-- Reads the members of a mapping in braces; `first` tells that no comma is due. -/
def flowMapping (fuel : Nat) (first : Bool) (r : Reader) : Except Problem Reader :=
  match fuel with
  | 0 => .error .unexpectedToken
  | fuel + 1 =>
    if r.isAt [.flowMappingEnd] then .ok (r.next.push .mappingEnd)
    else if !first && !r.isAt [.comma] then .error .unexpectedToken
    else
      let r := if first then r else r.next
      match r.tokens with
      | .key :: _ => do
        let r ← nodeUnless fuel [.value, .comma, .flowMappingEnd] .flow r.next
        let r ←
          match r.tokens with
          | .value :: _ => nodeUnless fuel [.comma, .flowMappingEnd] .flow r.next
          | _ => .ok r.pushAbsent
        flowMapping fuel false r
      | .flowMappingEnd :: _ => .ok (r.next.push .mappingEnd)
      | _ => do
        let r ← node fuel .flow r
        flowMapping fuel false r.pushAbsent

end

/-! ## Directives and documents -/

/-- Reads the directives in front of a document; each may stand there once, and the version must be
1.1 or 1.2. -/
def directives : List Token → Bool → List (String × String) →
    Except Problem (List Token × List (String × String))
  | .version major minor :: ts, versioned, handles =>
    if versioned ∨ major ≠ 1 ∨ (minor ≠ 1 ∧ minor ≠ 2) then .error .badDirective
    else directives ts true handles
  | .tagHandle handle uri :: ts, versioned, handles =>
    if (handles.lookup handle).isSome then .error .badDirective
    else directives ts versioned (handles ++ [(handle, uri)])
  | ts, _, handles => .ok (ts, handles)

/-- The handles that every document has unless it gives them another meaning. -/
def standardHandles : List (String × String) := [("!", "!"), ("!!", "tag:yaml.org,2002:")]

/-- Reads the contents of a document behind its mark. -/
def contents (fuel : Nat) (r : Reader) : Except Problem Reader :=
  match r.tokens with
  | [] => .ok r.pushAbsent
  | .version _ _ :: _ => .ok r.pushAbsent
  | .tagHandle _ _ :: _ => .ok r.pushAbsent
  | .documentStart :: _ => .ok r.pushAbsent
  | .documentEnd :: _ => .ok r.pushAbsent
  | _ => node fuel .block r

/-- Reads a document: its directives and its mark, without which there may be no directives, and its
contents. -/
def document (ts : List Token) : Except Problem Reader := do
  let fuel := 4 * ts.length + 4
  let (rest, handles) ← directives ts false []
  let r : Reader := ⟨rest, #[], [], [], handles ++ standardHandles⟩
  match rest with
  | .documentStart :: _ => contents fuel r.next
  | _ => if rest.length = ts.length then node fuel .block r else .error .unexpectedToken

end Reader

/-- Reads the only document of a text.  There is none if there are no tokens. -/
def ofTokens? (ts : List Token) : Except Problem Document :=
  if ts.isEmpty then .ok empty
  else
    match Reader.document ts with
    | .error e => .error e
    | .ok r =>
      if r.tokens.all (· = .documentEnd) then .ok ⟨r.events.toList, r.anchored⟩
      else .error .severalDocuments

def ofText (text : String) : Except Problem Document :=
  match tokens text with
  | .error e => .error e
  | .ok ts => ofTokens? ts

end Document

end PluginHost.Yaml
