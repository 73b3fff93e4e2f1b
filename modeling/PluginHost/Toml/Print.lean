import PluginHost.Number.Digits

/-!
# TOML text

The written form of the strings and truth values of a table without subtables, one key a line.  A
string is written in the first form that needs no escapes: on one line between double or single
quotes, then between three of them; else with escapes between double quotes, three where it has
several lines.
-/

namespace PluginHost.Toml

/-! ## Forms of a string -/

/-- How a string is written. -/
inductive Form where
  | basic
  | literal
  | multilineBasic
  | multilineLiteral
deriving DecidableEq, Repr, Inhabited

/-- Whether a character can only be written as an escape. -/
def isControl (c : Char) : Bool :=
  (c.toNat < 0x20 && c ≠ '\t' && c ≠ '\n') || c.toNat = 0x7F

/-- The length of the longest run of a character, `run` of which stand in front. -/
def longestRun (q : Char) (run : Nat) : List Char → Nat
  | [] => run
  | c :: cs => if c = q then longestRun q (run + 1) cs else max run (longestRun q 0 cs)

/-- The form that a string is written in. -/
def Form.ofChars (cs : List Char) : Form :=
  let clean := !cs.any isControl
  let doubles := longestRun '"' 0 cs
  let singles := longestRun '\'' 0 cs
  let oneLine := !cs.contains '\n'
  let bare := clean && !cs.contains '\\'
  if bare && oneLine && doubles = 0 then .basic
  else if clean && oneLine && singles = 0 then .literal
  else if bare && doubles ≤ 2 then .multilineBasic
  else if clean && singles ≤ 2 then .multilineLiteral
  else if oneLine then .basic
  else .multilineBasic

def Form.isMultiline : Form → Bool
  | .basic => false
  | .literal => false
  | .multilineBasic => true
  | .multilineLiteral => true

/-- What stands before and after a string. -/
def Form.quotes : Form → List Char
  | .basic => ['"']
  | .literal => ['\'']
  | .multilineBasic => ['"', '"', '"']
  | .multilineLiteral => ['\'', '\'', '\'']

/-! ## Escapes -/

/-- The written form of a character other than the quote. -/
def escape (multiline : Bool) (c : Char) : List Char :=
  if c = '\\' then ['\\', '\\']
  else if c = '\x08' then ['\\', 'b']
  else if c = '\t' then ['\\', 't']
  else if c = '\n' then if multiline then [c] else ['\\', 'n']
  else if c = '\x0c' then ['\\', 'f']
  else if c = '\r' then ['\\', 'r']
  else if isControl c then
    ['\\', 'u'] ++ Digits.upperHex 4 c.toNat
  else [c]

/-- A string with escapes, `run` quotes standing in front; one quote of three in a row is escaped
where the string has several lines, else each. -/
def escapeAll (multiline : Bool) (run : Nat) : List Char → List Char
  | [] => []
  | c :: cs =>
    if c = '"' then
      if multiline && run < 2 then c :: escapeAll multiline (run + 1) cs
      else '\\' :: c :: escapeAll multiline 0 cs
    else escape multiline c ++ escapeAll multiline 0 cs

/-! ## Values and lines -/

def written (f : Form) (cs : List Char) : List Char :=
  let body :=
    match f with
    | .basic => escapeAll false 0 cs
    | .multilineBasic => escapeAll true 0 cs
    | .literal => cs
    | .multilineLiteral => cs
  f.quotes ++ (if f.isMultiline && cs.contains '\n' then ['\n'] else []) ++ body ++ f.quotes

def string (s : String) : List Char := written (Form.ofChars s.toList) s.toList

def line (key : String) (value : List Char) : List Char :=
  key.toList ++ [' ', '=', ' '] ++ value ++ ['\n']

end PluginHost.Toml
