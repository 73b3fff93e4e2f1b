import PluginHost.Yaml.Scalar

/-!
# YAML text

The written form of the scalars of a flat mapping, one member a line.  A text goes without quotes
if it then reads back as the same text; several lines are written below the key, each indented;
else it stands between single quotes, and between double quotes, with escapes, where those cannot
hold it.
-/

namespace PluginHost.Yaml

/-! ## What a text allows -/

/-- Whether two neighbours of a text are of the given classes. -/
def hasPair (p q : Char → Bool) (cs : List Char) : Bool :=
  (cs.zip cs.tail).any fun (a, b) => p a && q b

def isSpace (c : Char) : Bool := c = ' '

/-- Whether a text starts with a sign of the syntax. -/
def startsWithIndicator : List Char → Bool
  | [] => false
  | c :: rest =>
    "#,[]\x7b\x7d&*!|>'\"%@`".toList.contains c
      || ((c = '?' || c = ':' || c = '-') && atGap rest)
      || (c = '-' && rest.take 2 = ['-', '-'])
      || (c = '.' && rest.take 2 = ['.', '.'])

/-- Whether a sign of the syntax follows the character `before`: the end of a key or the start of
a comment. -/
def holdsIndicator (before : Char) : List Char → Bool
  | [] => false
  | c :: rest =>
    (c = ':' && atGap rest) || (c = '#' && isGap before) || holdsIndicator c rest

/-- Whether a text may stand between single quotes. -/
def allowsSingleQuotes (cs : List Char) : Bool :=
  cs.all isPrintable && !hasPair isBreak isSpace cs && !hasPair isSpace isBreak cs

/-- Whether a text may be written below its key. -/
def allowsBlock (cs : List Char) : Bool :=
  !cs.isEmpty && cs.all isPrintable && !hasPair isSpace isBreak cs
    && !(cs.getLast?.map isSpace).getD false

/-- Whether a text may go without quotes. -/
def allowsPlain (cs : List Char) : Bool :=
  cs.all isPrintable && !cs.any isBreak
    && !(cs.head?.map isSpace).getD false && !(cs.getLast?.map isSpace).getD false
    && !startsWithIndicator cs && !((cs.head?.map fun c => holdsIndicator c cs.tail).getD false)

/-- How a text is written: as it is, between quotes, or on lines below its key. -/
inductive Style where
  | plain
  | singleQuoted
  | doubleQuoted
  | literal
deriving DecidableEq, Repr, Inhabited

/-- The style that a text is written in. -/
def Style.ofText (s : String) : Style :=
  let cs := s.toList
  if cs.contains '\n' then
    if allowsBlock cs then .literal else .doubleQuoted
  else if allowsPlain cs && !isResolved s then .plain
  else if allowsSingleQuotes cs then .singleQuoted
  else .doubleQuoted

/-! ## Scalars -/

/-- The written form of one character between double quotes. -/
def escape (c : Char) : List Char :=
  if isPrintable c && !isBreak c && c ≠ '"' && c ≠ '\\' then [c]
  else
    let n := c.toNat
    '\\' ::
      if n = 0 then ['0']
      else if n = 0x07 then ['a']
      else if n = 0x08 then ['b']
      else if n = 0x09 then ['t']
      else if n = 0x0A then ['n']
      else if n = 0x0B then ['v']
      else if n = 0x0C then ['f']
      else if n = 0x0D then ['r']
      else if n = 0x1B then ['e']
      else if c = '"' ∨ c = '\\' then [c]
      else if n = 0x85 then ['N']
      else if n = 0x2028 then ['L']
      else if n = 0x2029 then ['P']
      else if n ≤ 0xFF then 'x' :: Digits.upperHex 2 n
      else if n ≤ 0xFFFF then 'u' :: Digits.upperHex 4 n
      else 'U' :: Digits.upperHex 8 n

/-- The start of a line of a member. -/
def margin : List Char := [' ', ' ']

/-- A text between single quotes, behind the opening one; a quote is written twice and a line
after a break, as `broken` tells, is indented. -/
def singleQuotedRest (broken : Bool) : List Char → List Char
  | [] => (if broken then margin else []) ++ ['\'']
  | c :: cs =>
    if isBreak c then c :: singleQuotedRest true cs
    else
      (if broken then margin else []) ++ (if c = '\'' then ['\'', '\''] else [c])
        ++ singleQuotedRest false cs

/-- The lines of a text below its key; `fresh` tells whether a line starts. -/
def literalLines (fresh : Bool) : List Char → List Char
  | [] => []
  | c :: cs =>
    if isBreak c then c :: literalLines true cs
    else (if fresh then margin else []) ++ c :: literalLines false cs

/-- What tells how the breaks at the end of a text are read: `-` drops them, `+` keeps them all,
and without a sign there is one. -/
def chomping (cs : List Char) : List Char :=
  match cs.reverse with
  | [] => ['-']
  | [c] => if isBreak c then ['+'] else ['-']
  | c :: d :: _ => if isBreak c then (if isBreak d then ['+'] else []) else ['-']

/-- A text below its key.  The margin is announced where the text itself starts with blanks. -/
def literal (cs : List Char) : List Char :=
  let announced :=
    match cs with
    | [] => false
    | c :: _ => isSpace c || isBreak c
  ['|'] ++ (if announced then ['2'] else []) ++ chomping cs ++ '\n' :: literalLines true cs

def written (style : Style) (cs : List Char) : List Char :=
  match style with
  | .plain => cs
  | .singleQuoted => '\'' :: singleQuotedRest false cs
  | .doubleQuoted => '"' :: cs.flatMap escape ++ ['"']
  | .literal => literal cs

def scalar (s : String) : List Char := written (Style.ofText s) s.toList

/-! ## Mappings -/

/-- Ends a line that has not ended yet. -/
def endLine (cs : List Char) : List Char :=
  if (cs.getLast?.map isBreak).getD false then cs else cs ++ ['\n']

/-- The line of a member, or its lines. -/
def member (key : String) (value : List Char) : List Char :=
  endLine (key.toList ++ [':', ' '] ++ value)

end PluginHost.Yaml
