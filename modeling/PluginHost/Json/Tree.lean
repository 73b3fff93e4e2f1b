import PluginHost.Number.Digits

/-!
# JSON as it is written

`Tree.read` turns a text into a tree of what is written there, from left to right and as far as
it can be read.  A place where the text stops being JSON is part of the tree: a `Fault` at the
end of a string, number, array or object, or in place of a value.  Nothing is decided about what
the tree means: whether surrogates pair up, numbers are in range, names repeat or the nesting is
too deep is the business of whoever decodes it.
-/

namespace PluginHost.Json

/-- Why the text cannot be read on: what stands there is wrong, or the text ends too early. -/
inductive Fault where
  | malformed
  | truncated
deriving DecidableEq, Repr, Inhabited

/-- How a string, array or object ends. -/
inductive Ending where
  | closed
  | broken (f : Fault)
deriving DecidableEq, Repr, Inhabited

/-- A piece of a string: a character, or a `\u` escape with its code unit. -/
inductive Piece where
  | char (c : Char)
  | unit (n : Nat)
deriving DecidableEq, Repr, Inhabited

/-- A string as written. -/
structure Text where
  pieces : List Piece
  ending : Ending
deriving DecidableEq, Repr, Inhabited

/-- How a number ends: completely, at the end of the text where a digit is needed, or wrongly. -/
inductive NumeralEnd where
  | complete
  | cut
  | wrong
deriving DecidableEq, Repr, Inhabited

/-- A number as written: its digits before and behind the point, and its exponent. -/
structure Numeral where
  negative : Bool
  whole : List Nat
  fraction : List Nat
  exponent : Option (Bool × List Nat)
  ending : NumeralEnd
deriving DecidableEq, Repr, Inhabited

/-- A value as written.  `misspelt` is a word that begins like `null`, `true` or `false`; an
object whose first name is not a string holds in `stray` what stands there. -/
inductive Tree where
  | null
  | bool (b : Bool)
  | number (n : Numeral)
  | string (t : Text)
  | array (items : List Tree) (ending : Ending)
  | object (members : List (Text × Tree)) (stray : Option Tree) (ending : Ending)
  | misspelt (f : Fault)
  | broken (f : Fault)
deriving Repr, Inhabited

/-! ## Scalars -/

/-- Whether a character is a blank between tokens. -/
def isBlank (c : Char) : Bool := c = ' ' || c = '\t' || c = '\n' || c = '\r'

/-- The text from the next token on. -/
def skipBlanks (cs : List Char) : List Char := cs.dropWhile isBlank

/-- The code unit that four hexadecimal digits write. -/
def unit? (a b c d : Char) : Option Nat := Digits.toNat? 16 [a, b, c, d]

/-- The fault of an escape `\u` without four digits after it: the text is too short when fewer
than four bytes follow. -/
def unitFault (cs : List Char) : Fault :=
  if cs.foldl (fun n c => n + c.utf8Size) 0 < 4 then .truncated else .malformed

/-- What a character after a backslash stands for. -/
def escaped? (c : Char) : Option Char :=
  if c = '"' then some '"'
  else if c = '\\' then some '\\'
  else if c = '/' then some '/'
  else if c = 'b' then some '\x08'
  else if c = 'f' then some '\x0c'
  else if c = 'n' then some '\n'
  else if c = 'r' then some '\r'
  else if c = 't' then some '\t'
  else none

def Text.cons (p : Piece) (t : Text × List Char) : Text × List Char :=
  (⟨p :: t.1.pieces, t.1.ending⟩, t.2)

/-- A string that cannot be read on. -/
def Text.fault (f : Fault) : Text × List Char := (⟨[], .broken f⟩, [])

/-- Reads a string behind its opening quote. -/
def scanText : List Char → Text × List Char
  | [] => Text.fault .truncated
  | c :: cs =>
    if c = '"' then (⟨[], .closed⟩, cs)
    else if c.toNat < 0x20 then Text.fault .malformed
    else if c = '\\' then
      match cs with
      | [] => Text.fault .truncated
      | e :: cs =>
        if e = 'u' then
          match cs with
          | h1 :: h2 :: h3 :: h4 :: rest =>
            match unit? h1 h2 h3 h4 with
            | some n => Text.cons (.unit n) (scanText rest)
            | none => Text.fault (unitFault (h1 :: h2 :: h3 :: h4 :: rest))
          | short => Text.fault (unitFault short)
        else
          match escaped? e with
          | some x => Text.cons (.char x) (scanText cs)
          | none => Text.fault .malformed
    else Text.cons (.char c) (scanText cs)

/-- The digits at the head of a text, and the rest. -/
def scanDigits (cs : List Char) : List Nat × List Char :=
  ((cs.takeWhile Char.isDigit).map fun c => c.toNat - 48, cs.dropWhile Char.isDigit)

/-- A number that lacks a digit where `cs` starts. -/
def Numeral.stop (n : Numeral) (cs : List Char) : Numeral × List Char :=
  (⟨n.negative, n.whole, n.fraction, n.exponent, if cs.isEmpty then .cut else .wrong⟩, [])

/-- Reads the exponent of a number, if there is one. -/
def scanExponent (n : Numeral) (cs : List Char) : Numeral × List Char :=
  match cs with
  | e :: cs' =>
    if e = 'e' ∨ e = 'E' then
      let (positive, cs'') :=
        match cs' with
        | '+' :: r => (true, r)
        | '-' :: r => (false, r)
        | r => (true, r)
      match scanDigits cs'' with
      | ([], r) => n.stop r
      | (ds, r) => (⟨n.negative, n.whole, n.fraction, some (positive, ds), .complete⟩, r)
    else (n, cs)
  | [] => (n, [])

/-- Reads a number behind its sign. -/
def scanUnsigned (negative : Bool) (cs : List Char) : Numeral × List Char :=
  match scanDigits cs with
  | ([], r) => Numeral.stop ⟨negative, [], [], none, .complete⟩ r
  | (0 :: _ :: _, _) => (⟨negative, [0], [], none, .wrong⟩, [])
  | (ds, '.' :: r) =>
    match scanDigits r with
    | ([], r') => Numeral.stop ⟨negative, ds, [], none, .complete⟩ r'
    | (fs, r') => scanExponent ⟨negative, ds, fs, none, .complete⟩ r'
  | (ds, r) => scanExponent ⟨negative, ds, [], none, .complete⟩ r

/-- Reads a number from its sign or first digit on. -/
def scanNumeral (cs : List Char) : Numeral × List Char :=
  match cs with
  | '-' :: r => scanUnsigned true r
  | r => scanUnsigned false r

/-- Reads the rest of a word. -/
def scanWord (t : Tree) : List Char → List Char → Tree × List Char
  | [], cs => (t, cs)
  | _ :: _, [] => (.misspelt .truncated, [])
  | w :: ws, c :: cs => if c = w then scanWord t ws cs else (.misspelt .malformed, [])

/-! ## Values -/

/-- The fault of a text that should go on with something else than `cs`. -/
def faultAt (cs : List Char) : Fault := if cs.isEmpty then .truncated else .malformed

mutual

/-- Reads a value; `fuel` bounds the number of values and list ends read. -/
def readValue (fuel : Nat) (cs : List Char) : Tree × List Char :=
  match fuel with
  | 0 => (.broken .malformed, [])
  | fuel + 1 =>
    match skipBlanks cs with
    | [] => (.broken .truncated, [])
    | c :: cs =>
      if c = 'n' then scanWord .null ['u', 'l', 'l'] cs
      else if c = 't' then scanWord (.bool true) ['r', 'u', 'e'] cs
      else if c = 'f' then scanWord (.bool false) ['a', 'l', 's', 'e'] cs
      else if c = '"' then
        let (t, r) := scanText cs
        (.string t, r)
      else if c = '-' ∨ c.isDigit then
        let (n, r) := scanNumeral (c :: cs)
        (.number n, r)
      else if c = '[' then
        match skipBlanks cs with
        | ']' :: r => (.array [] .closed, r)
        | [] => (.array [] (.broken .truncated), [])
        | cs =>
          let (items, ending, r) := readItems fuel cs
          (.array items ending, r)
      else if c = Char.ofNat 0x7B then
        match skipBlanks cs with
        | [] => (.object [] none (.broken .truncated), [])
        | d :: r =>
          if d = Char.ofNat 0x7D then (.object [] none .closed, r)
          else if d = '"' then
            let (members, ending, r) := readMembers fuel (d :: r)
            (.object members none ending, r)
          else
            let (t, _) := readValue fuel (d :: r)
            (.object [] (some t) (.broken .malformed), [])
      else (.broken .malformed, [])

/-- Reads the items of an array, at least one, up to its end. -/
def readItems (fuel : Nat) (cs : List Char) : List Tree × Ending × List Char :=
  match fuel with
  | 0 => ([], .broken .malformed, [])
  | fuel + 1 =>
    let (t, r) := readValue fuel cs
    match skipBlanks r with
    | ']' :: r => ([t], .closed, r)
    | ',' :: r =>
      let (ts, ending, r) := readItems fuel r
      (t :: ts, ending, r)
    | r => ([t], .broken (faultAt r), [])

/-- Reads the members of an object, at least one, up to its end. -/
def readMembers (fuel : Nat) (cs : List Char) : List (Text × Tree) × Ending × List Char :=
  match fuel with
  | 0 => ([], .broken .malformed, [])
  | fuel + 1 =>
    match skipBlanks cs with
    | '"' :: r =>
      let (key, r) := scanText r
      match skipBlanks r with
      | ':' :: r =>
        let (t, r) := readValue fuel r
        match skipBlanks r with
        | c :: r =>
          if c = Char.ofNat 0x7D then ([(key, t)], .closed, r)
          else if c = ',' then
            let (ms, ending, r) := readMembers fuel r
            ((key, t) :: ms, ending, r)
          else ([(key, t)], .broken .malformed, [])
        | [] => ([(key, t)], .broken .truncated, [])
      | r => ([(key, .broken (faultAt r))], .broken (faultAt r), [])
    | r => ([(⟨[], .broken (faultAt r)⟩, .broken (faultAt r))], .broken (faultAt r), [])

end

/-- A whole text: the value it starts with, and whether more than blanks follows. -/
structure Document where
  root : Tree
  trailing : Bool
deriving Repr, Inhabited

def Document.ofChars (cs : List Char) : Document :=
  let (t, r) := readValue (2 * cs.length + 1) cs
  ⟨t, !(skipBlanks r).isEmpty⟩

end PluginHost.Json
