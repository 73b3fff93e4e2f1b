import PluginHost.Yaml.Scalar

/-!
# A place in a YAML text

The rest of a text with its place: how many bytes of UTF-8 stand before it, on which line and in
which column it starts.  And why a text cannot be read.
-/

namespace PluginHost.Yaml

/-! ## Problems -/

/-- Why a text is not what is expected. -/
inductive Problem where
  | controlCharacter (c : Char)
  | unclosedQuotes
  | markInQuotes
  | unknownEscape
  | misplacedTab
  | badIndentation
  | badHeader
  | badDirective
  | badName
  | badTag
  | undefinedTag (handle : String)
  | undefinedAlias (name : String)
  | keyWithoutColon
  | unexpectedColon
  | unexpectedEntry
  | unexpectedKey
  | unexpectedCharacter
  | unexpectedToken
  | severalDocuments
  | wrongType (expected : String)
  | duplicateField (name : String)
deriving DecidableEq, Repr, Inhabited

def Problem.message : Problem → String
  | .controlCharacter _ => "control characters are not allowed"
  | .unclosedQuotes => "unexpected end of a quoted scalar"
  | .markInQuotes => "document mark in a quoted scalar"
  | .unknownEscape => "unknown escape"
  | .misplacedTab => "tab where an indentation space is expected"
  | .badIndentation => "indentation of zero"
  | .badHeader => "expected a comment or a line break"
  | .badDirective => "malformed directive"
  | .badName => "malformed anchor or alias"
  | .badTag => "malformed tag"
  | .undefinedTag handle => "undefined tag handle " ++ handle
  | .undefinedAlias name => "unknown anchor " ++ name
  | .keyWithoutColon => "expected ':' behind a key"
  | .unexpectedColon => "mapping values are not allowed here"
  | .unexpectedEntry => "block sequence entries are not allowed here"
  | .unexpectedKey => "mapping keys are not allowed here"
  | .unexpectedCharacter => "character that cannot start a token"
  | .unexpectedToken => "unexpected token"
  | .severalDocuments => "more than one document"
  | .wrongType expected => "invalid type, expected " ++ expected
  | .duplicateField name => "duplicate field `" ++ name ++ "`"

/-! ## Places -/

/-- The rest of a text and where it starts. -/
structure Cursor where
  rest : List Char
  index : Nat
  line : Nat
  column : Nat
deriving DecidableEq, Repr, Inhabited

namespace Cursor

def start (cs : List Char) : Cursor := ⟨cs, 0, 0, 0⟩

/-- The bytes before the place that the next `n` characters end. -/
def indexBehind (n : Nat) (c : Cursor) : Nat :=
  (c.rest.take n).foldl (fun i x => i + x.utf8Size) c.index

/-- The place behind the next `n` characters of a line. -/
def advance (n : Nat) (c : Cursor) : Cursor :=
  ⟨c.rest.drop n, c.indexBehind n, c.line, c.column + n⟩

/-- The place behind the next character. -/
def skip (c : Cursor) : Cursor := c.advance 1

/-- The characters of a class that come next, and the place behind them. -/
def span (p : Char → Bool) (c : Cursor) : List Char × Cursor :=
  let cs := c.rest.takeWhile p
  (cs, c.advance cs.length)

/-- The place behind all characters of a class that come next. -/
def skipWhile (p : Char → Bool) (c : Cursor) : Cursor := (c.span p).2

def isAt (x : Char) (c : Cursor) : Bool := c.rest.head? = some x

def atLineEnd (c : Cursor) : Bool :=
  match c.rest with
  | [] => true
  | x :: _ => isBreak x

/-- The place behind `n` characters that end a line. -/
def breakLine (n : Nat) (c : Cursor) : Cursor := ⟨c.rest.drop n, c.indexBehind n, c.line + 1, 0⟩

/-- The line break that comes next, and the place behind it; the breaks of ASCII and U+0085 are all
read as a line feed. -/
def readBreak (c : Cursor) : List Char × Cursor :=
  match c.rest with
  | '\r' :: '\n' :: _ => (['\n'], c.breakLine 2)
  | x :: _ =>
    if x = '\u2028' ∨ x = '\u2029' then ([x], c.breakLine 1)
    else if isBreak x then (['\n'], c.breakLine 1)
    else ([], c)
  | [] => ([], c)

/-- The place behind a comment, if one starts here. -/
def skipComment (c : Cursor) : Cursor :=
  if c.isAt '#' then c.skipWhile fun x => !isBreak x else c

/-- The place behind blanks, a comment and the end of the line; nothing else may stand there. -/
def finishLine (fault : Problem) (c : Cursor) : Except Problem Cursor :=
  let c := (c.skipWhile isBlank).skipComment
  if c.atLineEnd then .ok c.readBreak.2 else .error fault

/-- Whether a line starts here with three of a character and the end of a word. -/
def atMark (x : Char) (c : Cursor) : Bool :=
  c.column = 0 && c.rest.take 3 = [x, x, x] && atGap (c.rest.drop 3)

/-- Whether a line starts here that begins or ends a document. -/
def atDocumentMark (c : Cursor) : Bool := c.atMark '-' || c.atMark '.'

end Cursor

end PluginHost.Yaml
