import PluginHost.Yaml.Token.Property
import PluginHost.Yaml.Token.Scalar

/-!
# From text to tokens

A text is read from left to right.  Indentation opens and closes block collections.  That a node
is a key is known only when a colon follows it; until then its place among the tokens is kept, and
the mark of the key, and the mapping that it opens, are put there.
-/

namespace PluginHost.Yaml

/-- A node that a colon would make a key: the number of tokens before it and its place, and whether
it must be a key because nothing else may stand there. -/
structure PendingKey where
  tokens : Nat
  index : Nat
  line : Nat
  column : Nat
  required : Bool
deriving DecidableEq, Repr, Inhabited

/-- A text read in part.  `keys` holds the pending key of each open bracket, the innermost first,
and of the text itself. -/
structure Lexer where
  cursor : Cursor
  tokens : Array Token
  keys : List (Option PendingKey)
  keyAllowed : Bool
  indent : Int
  outerIndents : List Int
deriving DecidableEq, Repr, Inhabited

namespace Lexer

/-- Nothing read yet. -/
def start (cs : List Char) : Lexer := ⟨.start cs, #[], [none], true, -1, []⟩

/-! ## Steps -/

def inFlow (l : Lexer) : Bool := 1 < l.keys.length

def push (t : Token) (l : Lexer) : Lexer := { l with tokens := l.tokens.push t }

/-- Adds a token before the last ones. -/
def insert (n : Nat) (t : Token) (l : Lexer) : Lexer :=
  { l with tokens := l.tokens.insertIdxIfInBounds n t }

/-- Goes behind the next `n` characters. -/
def advance (n : Nat) (l : Lexer) : Lexer := { l with cursor := l.cursor.advance n }

/-- Settles whether a key may start here. -/
def allowKey (allowed : Bool) (l : Lexer) : Lexer := { l with keyAllowed := allowed }

/-- Goes behind blanks, comments and line ends, and behind a byte order mark that starts a line.  A
key may start on a new line; where one may start, a tab is no blank. -/
def skipBlanks : Nat → Lexer → Lexer
  | 0, l => l
  | fuel + 1, l =>
    let marked := l.cursor.column = 0 && l.cursor.isAt (Char.ofNat 0xFEFF)
    let c := if marked then l.cursor.skip else l.cursor
    let c := c.skipWhile fun x => x = ' ' || (x = '\t' && (l.inFlow || !l.keyAllowed))
    let c := c.skipComment
    match c.rest with
    | [] => { l with cursor := c }
    | x :: _ =>
      if isBreak x then
        skipBlanks fuel { l with cursor := c.readBreak.2, keyAllowed := l.keyAllowed || !l.inFlow }
      else { l with cursor := c }

/-- Gives up the pending keys that no colon can follow any more: a key stands on one line and has
at most 1024 bytes. -/
def dropStaleKeys (l : Lexer) : Except Problem Lexer :=
  let stale (k : PendingKey) := k.line < l.cursor.line || k.index + 1024 < l.cursor.index
  if l.keys.any fun k => (k.map fun k => stale k && k.required).getD false then
    .error .keyWithoutColon
  else .ok { l with keys := l.keys.map fun k => k.bind fun k => if stale k then none else some k }

/-- Gives up the innermost pending key. -/
def dropKey (l : Lexer) : Except Problem Lexer :=
  match l.keys with
  | some k :: ks =>
    if k.required then .error .keyWithoutColon else .ok { l with keys := none :: ks }
  | _ => .ok l

/-- Notes that a node starts here which may be a key. -/
def noteKey (l : Lexer) : Except Problem Lexer :=
  if l.keyAllowed then
    let c := l.cursor
    let required := !l.inFlow && l.indent = c.column
    l.dropKey.map fun l =>
      { l with keys := some ⟨l.tokens.size, c.index, c.line, c.column, required⟩ :: l.keys.tail }
  else .ok l

/-- Opens a block collection at a column right of the current ones; its bracket goes behind the
first `n` tokens. -/
def openBlock (column : Nat) (n : Nat) (t : Token) (l : Lexer) : Lexer :=
  if !l.inFlow ∧ l.indent < column then
    { l.insert n t with indent := column, outerIndents := l.indent :: l.outerIndents }
  else l

/-- The collections left after those right of a column are closed, and how many these are. -/
def closedBlocks (column : Int) : Int → List Int → Nat × Int × List Int
  | indent, [] => (0, indent, [])
  | indent, outer :: rest =>
    if column < indent then
      let (n, i, is) := closedBlocks column outer rest
      (n + 1, i, is)
    else (0, indent, outer :: rest)

/-- Closes the block collections right of a column. -/
def closeBlocks (column : Int) (l : Lexer) : Lexer :=
  if l.inFlow then l
  else
    let (n, indent, outer) := closedBlocks column l.indent l.outerIndents
    { l with
      tokens := l.tokens ++ Array.replicate n Token.blockEnd
      indent := indent
      outerIndents := outer }

/-! ## Tokens -/

def directive (l : Lexer) : Except Problem Lexer := do
  let l ← (l.closeBlocks (-1)).dropKey
  let (t, c) ← readDirective l.cursor
  return (({ l with cursor := c }).allowKey false).push t

def documentMark (t : Token) (l : Lexer) : Except Problem Lexer := do
  let l ← (l.closeBlocks (-1)).dropKey
  return ((l.allowKey false).advance 3).push t

def openFlow (t : Token) (l : Lexer) : Except Problem Lexer := do
  let l ← l.noteKey
  return (({ l with keys := none :: l.keys }.allowKey true).advance 1).push t

def closeFlow (t : Token) (l : Lexer) : Except Problem Lexer := do
  let l ← l.dropKey
  let keys := if l.inFlow then l.keys.tail else l.keys
  return (({ l with keys := keys }.allowKey false).advance 1).push t

def comma (l : Lexer) : Except Problem Lexer := do
  let l ← l.dropKey
  return ((l.allowKey true).advance 1).push .comma

/-- Reads the dash of an entry. -/
def entry (l : Lexer) : Except Problem Lexer := do
  if !l.inFlow && !l.keyAllowed then .error .unexpectedEntry
  let l ← (l.openBlock l.cursor.column l.tokens.size .blockSequence).dropKey
  return ((l.allowKey true).advance 1).push .entry

/-- Reads the question mark of a key. -/
def explicitKey (l : Lexer) : Except Problem Lexer := do
  if !l.inFlow && !l.keyAllowed then .error .unexpectedKey
  let l ← (l.openBlock l.cursor.column l.tokens.size .blockMapping).dropKey
  return ((l.allowKey !l.inFlow).advance 1).push .key

/-- Reads the colon of a value; the node before it may be its key. -/
def value (l : Lexer) : Except Problem Lexer :=
  match l.keys with
  | some k :: ks =>
    let l := ((l.insert k.tokens .key).openBlock k.column k.tokens .blockMapping)
    .ok (({ l with keys := none :: ks }.allowKey false).advance 1 |>.push .value)
  | _ =>
    if !l.inFlow && !l.keyAllowed then .error .unexpectedColon
    else
      let l := l.openBlock l.cursor.column l.tokens.size .blockMapping
      .ok (((l.allowKey !l.inFlow).advance 1).push .value)

/-- Reads an anchor or alias. -/
def name (t : String → Token) (l : Lexer) : Except Problem Lexer := do
  let l ← l.noteKey
  let (s, c) ← readName l.cursor.skip
  return (({ l with cursor := c }).allowKey false).push (t s)

def tag (l : Lexer) : Except Problem Lexer := do
  let l ← l.noteKey
  let (t, c) ← readTag l.inFlow l.cursor
  return (({ l with cursor := c }).allowKey false).push t

def blockScalar (layout : Layout) (l : Lexer) : Except Problem Lexer := do
  let l ← l.dropKey
  let (s, c) ← readBlock (layout = .folded) l.indent l.cursor.skip
  return (({ l with cursor := c }).allowKey true).push (.scalar layout (String.ofList s))

def quotedScalar (quote : Char) (l : Lexer) : Except Problem Lexer := do
  let l ← l.noteKey
  let (s, c) ← readQuoted quote (l.cursor.rest.length + 1) [] l.cursor.skip
  return (({ l with cursor := c }).allowKey false).push (.scalar .quoted (String.ofList s))

/-- Reads a plain scalar; a key may start behind it if it ends with a line. -/
def plainScalar (l : Lexer) : Except Problem Lexer := do
  let l ← l.noteKey
  let margin := (l.indent + 1).toNat
  let (s, broken, c) ← readPlain l.inFlow margin (l.cursor.rest.length + 1) [] Gap.none l.cursor
  return (({ l with cursor := c }).allowKey broken).push (.scalar .plain (String.ofList s))

/-- Whether a plain scalar may start with `c`, before `rest`. -/
def startsPlain (inFlow : Bool) (c : Char) (rest : List Char) : Bool :=
  !(isGap c || "-?:,[]\x7b\x7d#&*!|>'\"%@`".toList.contains c)
    || (c = '-' && !(rest.head?.map isBlank).getD false)
    || (!inFlow && (c = '?' || c = ':') && !atGap rest)

/-- Reads the token that starts with `x`. -/
def token (x : Char) (rest : List Char) (l : Lexer) : Except Problem Lexer :=
  if l.cursor.column = 0 ∧ x = '%' then l.directive
  else if l.cursor.atMark '-' then l.documentMark .documentStart
  else if l.cursor.atMark '.' then l.documentMark .documentEnd
  else if x = '[' then l.openFlow .flowSequence
  else if x = '\x7b' then l.openFlow .flowMapping
  else if x = ']' then l.closeFlow .flowSequenceEnd
  else if x = '\x7d' then l.closeFlow .flowMappingEnd
  else if x = ',' then l.comma
  else if x = '-' ∧ atGap rest then l.entry
  else if x = '?' ∧ (l.inFlow ∨ atGap rest) then l.explicitKey
  else if x = ':' ∧ (l.inFlow ∨ atGap rest) then l.value
  else if x = '*' then l.name .alias
  else if x = '&' then l.name .anchor
  else if x = '!' then l.tag
  else if x = '|' ∧ !l.inFlow then l.blockScalar .literal
  else if x = '>' ∧ !l.inFlow then l.blockScalar .folded
  else if x = '\'' ∨ x = '"' then l.quotedScalar x
  else if startsPlain l.inFlow x rest then l.plainScalar
  else .error .unexpectedCharacter

/-- Reads the rest of a text. -/
def run : Nat → Lexer → Except Problem (Array Token)
  | 0, _ => .error .unexpectedToken
  | fuel + 1, l =>
    match (l.skipBlanks (l.cursor.rest.length + 1)).dropStaleKeys with
    | .error e => .error e
    | .ok l =>
      let l := l.closeBlocks l.cursor.column
      match l.cursor.rest with
      | [] => ((l.closeBlocks (-1)).dropKey).map Lexer.tokens
      | x :: rest =>
        match l.token x rest with
        | .error e => .error e
        | .ok l => run fuel l

end Lexer

/-- Whether a character may stand in a text. -/
def isAllowed (c : Char) : Bool :=
  let n := c.toNat
  n = 0x09 || n = 0x0A || n = 0x0D || (0x20 ≤ n && n ≤ 0x7E) || n = 0x85 || (0xA0 ≤ n && n ≤ 0xFFFD)
    || 0x10000 ≤ n

def tokens (text : String) : Except Problem (List Token) :=
  let cs := text.toList
  match cs.find? fun c => !isAllowed c with
  | some c => .error (.controlCharacter c)
  | none => ((Lexer.start cs).run (cs.length + 2)).map Array.toList

end PluginHost.Yaml
