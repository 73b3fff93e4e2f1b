import PluginHost.Yaml.Token

/-!
# Scalar tokens

A scalar over several lines is folded: a line break alone becomes a space, and of several breaks
all but the first stay.  Quoted scalars end with their quote, plain scalars where a sign of the
syntax or less indentation follows, and block scalars where a line is indented less than their
first.
-/

namespace PluginHost.Yaml

/-! ## Gaps -/

/-- What stands between two words: blanks on one line, or a break and the breaks after it. -/
structure Gap where
  blanks : List Char
  broken : Bool
  first : List Char
  more : List Char
deriving DecidableEq, Repr, Inhabited

def Gap.none : Gap := ⟨[], false, [], []⟩

/-- A break that leaves nothing. -/
def Gap.joined : Gap := ⟨[], true, [], []⟩

/-- What a gap is read as. -/
def Gap.text (g : Gap) : List Char :=
  if g.broken then
    if g.first = ['\n'] then (if g.more.isEmpty then [' '] else g.more) else g.first ++ g.more
  else g.blanks

/-- Reads on in a gap.  Behind a break no tab may stand left of the margin. -/
def readGap (margin : Nat) : Nat → Gap → Cursor → Except Problem (Gap × Cursor)
  | 0, g, c => .ok (g, c)
  | fuel + 1, g, c =>
    match c.rest with
    | [] => .ok (g, c)
    | x :: _ =>
      if isBlank x then
        if !g.broken then readGap margin fuel { g with blanks := g.blanks ++ [x] } c.skip
        else if x = '\t' ∧ c.column < margin then .error .misplacedTab
        else readGap margin fuel g c.skip
      else if isBreak x then
        let (b, c) := c.readBreak
        if g.broken then readGap margin fuel { g with more := g.more ++ b } c
        else readGap margin fuel { g with broken := true, first := b } c
      else .ok (g, c)

/-! ## Quoted scalars -/

/-- What an escape of one letter stands for. -/
def escaped? (c : Char) : Option Char :=
  if c = '0' then some (Char.ofNat 0)
  else if c = 'a' then some '\x07'
  else if c = 'b' then some '\x08'
  else if c = 't' ∨ c = '\t' then some '\t'
  else if c = 'n' then some '\n'
  else if c = 'v' then some '\x0b'
  else if c = 'f' then some '\x0c'
  else if c = 'r' then some '\r'
  else if c = 'e' then some '\x1b'
  else if c = ' ' ∨ c = '"' ∨ c = '/' ∨ c = '\\' then some c
  else if c = 'N' then some '\u0085'
  else if c = '_' then some '\u00a0'
  else if c = 'L' then some '\u2028'
  else if c = 'P' then some '\u2029'
  else none

/-- The number of hexadecimal digits behind an escape. -/
def escapeWidth? (c : Char) : Option Nat :=
  if c = 'x' then some 2
  else if c = 'u' then some 4
  else if c = 'U' then some 8
  else none

/-- The character that an escape stands for, and the place behind it. -/
def readEscape (c : Cursor) : Except Problem (Char × Cursor) :=
  match c.rest with
  | e :: cs =>
    match escaped? e with
    | some x => .ok (x, c.skip)
    | none =>
      match escapeWidth? e with
      | none => .error .unknownEscape
      | some width =>
        match Digits.toNat? 16 (cs.take width) with
        | none => .error .unknownEscape
        | some n =>
          if cs.length < width ∨ !n.isValidChar then .error .unknownEscape
          else .ok (Char.ofNat n, c.advance (width + 1))
  | [] => .error .unknownEscape

/-- Reads a word between quotes: up to a gap, to the closing quote or behind an escaped line
break. -/
def readQuotedWord (quote : Char) :
    Nat → List Char → Cursor → Except Problem (List Char × Gap × Cursor)
  | 0, word, c => .ok (word, Gap.none, c)
  | fuel + 1, word, c =>
    match c.rest with
    | [] => .ok (word, Gap.none, c)
    | x :: cs =>
      if isGap x then .ok (word, Gap.none, c)
      else if x = '\'' ∧ quote = '\'' ∧ cs.head? = some '\'' then
        readQuotedWord quote fuel (word ++ [x]) (c.advance 2)
      else if x = quote then .ok (word, Gap.none, c)
      else if x = '\\' ∧ quote = '"' then
        if (cs.head?.map isBreak).getD false then .ok (word, Gap.joined, c.skip.readBreak.2)
        else
          match readEscape c.skip with
          | .error e => .error e
          | .ok (y, c) => readQuotedWord quote fuel (word ++ [y]) c
      else readQuotedWord quote fuel (word ++ [x]) c.skip

/-- Reads a scalar behind its opening quote. -/
def readQuoted (quote : Char) : Nat → List Char → Cursor → Except Problem (List Char × Cursor)
  | 0, _, _ => .error .unclosedQuotes
  | fuel + 1, text, c =>
    if c.atDocumentMark then .error .markInQuotes
    else if c.rest.isEmpty then .error .unclosedQuotes
    else
      match readQuotedWord quote (c.rest.length + 1) [] c with
      | .error e => .error e
      | .ok (word, gap, c) =>
        if c.isAt quote then .ok (text ++ word, c.skip)
        else
          match readGap 0 (c.rest.length + 1) gap c with
          | .error e => .error e
          | .ok (gap, c) => readQuoted quote fuel (text ++ word ++ gap.text) c

/-! ## Plain scalars -/

/-- Whether a character has a meaning of its own between brackets. -/
def isFlowSign (c : Char) : Bool := ",[]\x7b\x7d".toList.contains c

/-- Reads a word of a plain scalar; `inFlow` tells whether it stands between brackets. -/
def readPlainWord (inFlow : Bool) : Nat → List Char → Cursor → Except Problem (List Char × Cursor)
  | 0, word, c => .ok (word, c)
  | fuel + 1, word, c =>
    match c.rest with
    | [] => .ok (word, c)
    | x :: cs =>
      if isGap x then .ok (word, c)
      else if inFlow ∧ x = ':' ∧ (cs.head?.map fun y => isFlowSign y || y = '?').getD false then
        .error .unexpectedColon
      else if x = ':' ∧ atGap cs then .ok (word, c)
      else if inFlow ∧ isFlowSign x then .ok (word, c)
      else readPlainWord inFlow fuel (word ++ [x]) c.skip

/-- Reads a plain scalar whose further lines start at the margin or right of it.  The gap behind
it is read too, and the answer tells whether it is broken. -/
def readPlain (inFlow : Bool) (margin : Nat) :
    Nat → List Char → Gap → Cursor → Except Problem (List Char × Bool × Cursor)
  | 0, text, gap, c => .ok (text, gap.broken, c)
  | fuel + 1, text, gap, c =>
    if c.atDocumentMark || c.isAt '#' then .ok (text, gap.broken, c)
    else
      match readPlainWord inFlow (c.rest.length + 1) [] c with
      | .error e => .error e
      | .ok ([], c) => .ok (text, gap.broken, c)
      | .ok (word, c) =>
        let text := text ++ gap.text ++ word
        match readGap margin (c.rest.length + 1) Gap.none c with
        | .error e => .error e
        | .ok (gap, c') =>
          if c'.index = c.index then .ok (text, false, c)
          else if !inFlow ∧ c'.column < margin then .ok (text, gap.broken, c')
          else readPlain inFlow margin fuel text gap c'

/-! ## Block scalars -/

/-- What becomes of the breaks at the end of a block scalar. -/
inductive Chomping where
  | strip
  | clip
  | keep
deriving DecidableEq, Repr, Inhabited

/-- The chomping that a sign stands for. -/
def Chomping.ofChar? (c : Char) : Option Chomping :=
  if c = '+' then some .keep else if c = '-' then some .strip else none

/-- Reads the digit that announces the indentation, if there is one. -/
def readIndentation (c : Cursor) : Except Problem (Option Nat × Cursor) :=
  match c.rest with
  | x :: _ =>
    if x.isDigit then
      if x = '0' then .error .badIndentation else .ok (some (x.toNat - 48), c.skip)
    else .ok (none, c)
  | [] => .ok (none, c)

/-- Reads the sign of the chomping, if there is one. -/
def readChomping (c : Cursor) : Option Chomping × Cursor :=
  match c.rest.head?.bind Chomping.ofChar? with
  | some k => (some k, c.skip)
  | none => (none, c)

/-- Reads the signs behind `|` or `>`, in either order. -/
def readHeader (c : Cursor) : Except Problem (Chomping × Option Nat × Cursor) :=
  match readChomping c with
  | (some k, c) => (readIndentation c).map fun (n, c) => (k, n, c)
  | (none, c) =>
    match readIndentation c with
    | .error e => .error e
    | .ok (none, c) => .ok (.clip, none, c)
    | .ok (some n, c) =>
      let (k, c) := readChomping c
      .ok (k.getD .clip, some n, c)

/-- Reads empty lines in front of a line of a block scalar.  Without a given indentation all
blanks are read, and `widest` becomes the widest margin met. -/
def readEmptyLines (indent : Option Nat) :
    Nat → Nat → List Char → Cursor → Except Problem (Nat × List Char × Cursor)
  | 0, widest, breaks, c => .ok (widest, breaks, c)
  | fuel + 1, widest, breaks, c =>
    let spaces := (c.rest.takeWhile (· = ' ')).length
    let c :=
      match indent with
      | none => c.advance spaces
      | some n => c.advance (min spaces (n - c.column))
    let widest := max widest c.column
    let inMargin :=
      match indent with
      | none => true
      | some n => c.column < n
    if inMargin && c.isAt '\t' then .error .misplacedTab
    else if c.rest.isEmpty || !c.atLineEnd then .ok (widest, breaks, c)
    else
      let (b, c) := c.readBreak
      readEmptyLines indent fuel widest (breaks ++ b) c

/-- Whether the next character is a blank. -/
def atBlank (c : Cursor) : Bool := (c.rest.head?.map isBlank).getD false

/-- Reads the lines of a block scalar.  `ended` is the break behind the last line, `breaks` those
of the empty lines after it, and `wasBlank` tells whether the last line started with a blank. -/
def readBlockLines (folded : Bool) (chomping : Chomping) (indent : Nat) :
    Nat → List Char → List Char → List Char → Bool → Cursor →
      Except Problem (List Char × Cursor)
  | 0, text, _, _, _, c => .ok (text, c)
  | fuel + 1, text, ended, breaks, wasBlank, c =>
    if c.column ≠ indent ∨ c.rest.isEmpty then
      .ok (text ++ (if chomping = .strip then [] else ended)
        ++ (if chomping = .keep then breaks else []), c)
    else
      let startsBlank := atBlank c
      let joint :=
        if folded ∧ ended = ['\n'] ∧ !wasBlank ∧ !startsBlank then
          if breaks.isEmpty then [' '] else []
        else ended
      let (line, c) := c.span fun x => !isBreak x
      let (ended, c) := c.readBreak
      match readEmptyLines (some indent) (c.rest.length + 1) 0 [] c with
      | .error e => .error e
      | .ok (_, breaks', c) =>
        readBlockLines folded chomping indent fuel (text ++ joint ++ breaks ++ line) ended breaks'
          startsBlank c

/-- Reads a block scalar behind `|` or `>`, in a collection indented by `parent`. -/
def readBlock (folded : Bool) (parent : Int) (c : Cursor) :
    Except Problem (List Char × Cursor) :=
  match readHeader c with
  | .error e => .error e
  | .ok (chomping, announced, c) =>
    match c.finishLine .badHeader with
    | .error e => .error e
    | .ok c =>
      let given := announced.map fun n => if 0 ≤ parent then parent.toNat + n else n
      match readEmptyLines given (c.rest.length + 1) 0 [] c with
      | .error e => .error e
      | .ok (widest, breaks, c) =>
        let indent := given.getD (max (max widest (parent + 1).toNat) 1)
        readBlockLines folded chomping indent (c.rest.length + 1) [] [] breaks false c

end PluginHost.Yaml
