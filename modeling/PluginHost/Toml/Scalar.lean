import PluginHost.Number.Decimal

/-!
# Scalars of TOML

Reading keys, strings, numbers and dates.  Each function takes a text that starts with what it
reads and gives back what follows; it takes as much as it can, so that what it leaves is an error
where nothing may follow.
-/

namespace PluginHost.Toml

/-- Why a text is no document of the kind expected. -/
inductive Problem where
  | unexpectedText
  | unclosedString
  | unknownEscape
  | controlCharacter (c : Char)
  | numberOutOfRange
  | tooDeep
  | duplicateKey (name : String)
  | notATable (name : String)
  | wrongType (expected : String)
deriving DecidableEq, Repr, Inhabited

def Problem.message : Problem → String
  | .unexpectedText => "unexpected text"
  | .unclosedString => "unclosed string"
  | .unknownEscape => "unknown escape"
  | .controlCharacter _ => "control character"
  | .numberOutOfRange => "number out of range"
  | .tooDeep => "nested too deeply"
  | .duplicateKey name => "duplicate key `" ++ name ++ "`"
  | .notATable name => "`" ++ name ++ "` is no table"
  | .wrongType expected => "invalid type, expected " ++ expected

/-! ## Blanks -/

/-- Whether a character is a blank within a line. -/
def isBlank (c : Char) : Bool := c = ' ' || c = '\t'

def skipBlanks (cs : List Char) : List Char := cs.dropWhile isBlank

/-- The text behind a line break, if it starts with one. -/
def afterBreak? : List Char → Option (List Char)
  | '\n' :: cs => some cs
  | '\r' :: '\n' :: cs => some cs
  | _ => none

/-- Whether a character may stand in strings and comments. -/
def isText (c : Char) : Bool := c = '\t' || (0x20 ≤ c.toNat && c.toNat ≠ 0x7F)

/-- The text behind a comment, if it starts with one. -/
def skipComment (cs : List Char) : List Char :=
  if cs.head? = some '#' then cs.dropWhile isText else cs

/-- The text behind the end of a line, before which blanks and a comment may stand. -/
def endLine (cs : List Char) : Except Problem (List Char) :=
  let cs := skipComment (skipBlanks cs)
  if cs.isEmpty then .ok []
  else
    match afterBreak? cs with
    | some cs => .ok cs
    | none => .error .unexpectedText

/-! ## Strings -/

/-- What an escape of one letter stands for. -/
def escaped? (c : Char) : Option Char :=
  if c = 'b' then some '\x08'
  else if c = 't' then some '\t'
  else if c = 'n' then some '\n'
  else if c = 'f' then some '\x0c'
  else if c = 'r' then some '\r'
  else if c = '"' ∨ c = '\\' then some c
  else none

def readEscape (cs : List Char) : Except Problem (Char × List Char) :=
  match cs with
  | [] => .error .unclosedString
  | e :: cs =>
    match escaped? e with
    | some c => .ok (c, cs)
    | none =>
      if e = 'u' ∨ e = 'U' then
        let width := if e = 'u' then 4 else 8
        match Digits.toNat? 16 (cs.take width) with
        | none => .error .unknownEscape
        | some n =>
          if cs.length < width ∨ !n.isValidChar then .error .unknownEscape
          else .ok (Char.ofNat n, cs.drop width)
      else .error .unknownEscape

/-- Reads a string on one line behind its opening quote. -/
def readString (quote : Char) :
    Nat → List Char → List Char → Except Problem (List Char × List Char)
  | 0, _, _ => .error .unclosedString
  | fuel + 1, text, cs =>
    match cs with
    | [] => .error .unclosedString
    | c :: cs =>
      if c = quote then .ok (text, cs)
      else if c = '\\' ∧ quote = '"' then
        match readEscape cs with
        | .error e => .error e
        | .ok (c, cs) => readString quote fuel (text ++ [c]) cs
      else if isText c then readString quote fuel (text ++ [c]) cs
      else .error (.controlCharacter c)

/-- The text behind a backslash that ends a line: blanks and line breaks are left out up to the next
character. -/
def afterJoin? (cs : List Char) : Option (List Char) :=
  (afterBreak? (skipBlanks cs)).map fun cs =>
    go (cs.length + 1) cs
where
  /-- Leaves out blanks and line breaks. -/
  go : Nat → List Char → List Char
    | 0, cs => cs
    | fuel + 1, cs =>
      match afterBreak? (skipBlanks cs) with
      | some cs => go fuel cs
      | none => skipBlanks cs

/-- Reads a string over several lines behind its first quotes.  Three quotes end it, and one or two
more may stand directly before them. -/
def readLines (quote : Char) :
    Nat → List Char → List Char → Except Problem (List Char × List Char)
  | 0, _, _ => .error .unclosedString
  | fuel + 1, text, cs =>
    match cs with
    | [] => .error .unclosedString
    | c :: rest =>
      if c = quote then
        let run := min 5 (cs.takeWhile (· = quote)).length
        if 3 ≤ run then .ok (text ++ List.replicate (run - 3) quote, cs.drop run)
        else readLines quote fuel (text ++ [quote]) rest
      else if c = '\\' ∧ quote = '"' then
        match afterJoin? rest with
        | some cs => readLines quote fuel text cs
        | none =>
          match readEscape rest with
          | .error e => .error e
          | .ok (c, cs) => readLines quote fuel (text ++ [c]) cs
      else
        match afterBreak? cs with
        | some cs => readLines quote fuel (text ++ ['\n']) cs
        | none =>
          if isText c then readLines quote fuel (text ++ [c]) rest
          else .error (.controlCharacter c)

/-- Reads a string that starts with the given quote.  A line break directly behind three quotes is
left out. -/
def readQuoted (quote : Char) (cs : List Char) : Except Problem (List Char × List Char) :=
  if cs.take 3 = [quote, quote, quote] then
    let cs := cs.drop 3
    readLines quote (cs.length + 1) [] ((afterBreak? cs).getD cs)
  else readString quote (cs.length + 1) [] cs.tail

/-! ## Keys -/

def isKeyChar (c : Char) : Bool := c.isAlphanum || c = '-' || c = '_'

def readKeyPart (cs : List Char) : Except Problem (String × List Char) :=
  match cs with
  | [] => .error .unexpectedText
  | c :: rest =>
    if c = '"' ∨ c = '\'' then
      (readString c (rest.length + 1) [] rest).map fun (key, cs) => (String.ofList key, cs)
    else if isKeyChar c then
      .ok (String.ofList (cs.takeWhile isKeyChar), cs.dropWhile isKeyChar)
    else .error .unexpectedText

/-- The number of levels that a document may not reach. -/
def depthLimit : Nat := 80

/-- Reads the parts of a key, with points between them: all but the last, and the last. -/
def readKeyParts : Nat → List String → List Char → Except Problem (List String × String × List Char)
  | 0, _, _ => .error .unexpectedText
  | fuel + 1, path, cs =>
    match readKeyPart (skipBlanks cs) with
    | .error e => .error e
    | .ok (key, cs) =>
      match skipBlanks cs with
      | '.' :: cs => readKeyParts fuel (path ++ [key]) cs
      | cs => if depthLimit ≤ path.length + 1 then .error .tooDeep else .ok (path, key, cs)

def readKey (cs : List Char) : Except Problem (List String × String × List Char) :=
  readKeyParts (cs.length + 1) [] cs

/-! ## Numbers -/

/-- The digits of a class at the head of a text, and the rest; an underscore may stand between two
digits. -/
def spanDigits (p : Char → Bool) : List Char → List Char × List Char
  | [] => ([], [])
  | c :: cs =>
    if p c then
      match cs with
      | '_' :: d :: rest =>
        if p d then
          let (ds, r) := spanDigits p (d :: rest)
          (c :: ds, r)
        else ([c], cs)
      | cs =>
        let (ds, r) := spanDigits p cs
        (c :: ds, r)
    else ([], c :: cs)

/-- The sign of a number, if it has one. -/
def spanSign : List Char → List Char × List Char
  | '+' :: cs => (['+'], cs)
  | '-' :: cs => (['-'], cs)
  | cs => ([], cs)

/-- The digits of a decimal integer: a zero, or digits that start with none. -/
def spanInteger : List Char → List Char × List Char
  | '0' :: cs => (['0'], cs)
  | cs => spanDigits Char.isDigit cs

/-- A point and digits. -/
def spanFraction : List Char → List Char × List Char
  | '.' :: cs =>
    match spanDigits Char.isDigit cs with
    | ([], _) => ([], '.' :: cs)
    | (ds, r) => ('.' :: ds, r)
  | cs => ([], cs)

/-- The letter of an exponent and its digits. -/
def spanExponent (cs : List Char) : List Char × List Char :=
  match cs with
  | e :: r =>
    if e = 'e' ∨ e = 'E' then
      let (sign, r) := spanSign r
      match spanDigits Char.isDigit r with
      | ([], _) => ([], cs)
      | (ds, r) => (e :: sign ++ ds, r)
    else ([], cs)
  | [] => ([], [])

/-- A number, an integer or written with a point or an exponent. -/
inductive Numeral where
  | integer (n : Int)
  | float (text : String)
deriving DecidableEq, Repr, Inhabited

def Numeral.ofInt (n : Int) : Except Problem Numeral :=
  if -(Nat.pow 2 63) ≤ n ∧ n < Nat.pow 2 63 then .ok (.integer n) else .error .numberOutOfRange

/-- Reads an integer in another base behind its sign `0x`, `0o` or `0b`. -/
def readBased (base : Nat) (cs : List Char) : Except Problem (Numeral × List Char) :=
  match spanDigits (Digits.isDigit base) cs with
  | ([], _) => .error .unexpectedText
  | (ds, r) => (Numeral.ofInt (Digits.toNat base ds)).map fun n => (n, r)

/-- Reads a decimal number.  One too large for a double may only be negative. -/
def readDecimal (cs : List Char) : Except Problem (Numeral × List Char) :=
  let (sign, r) := spanSign cs
  let word := String.ofList (r.take 3)
  let (whole, rest) := spanInteger r
  let (fraction, rest) := spanFraction rest
  let (exponent, rest) := spanExponent rest
  if word = "inf" ∨ word = "nan" then .ok (.float (String.ofList sign ++ word), r.drop 3)
  else if whole.isEmpty then .error .unexpectedText
  else if fraction.isEmpty && exponent.isEmpty then
    let n : Int := Digits.toNat 10 whole
    (Numeral.ofInt (if sign = ['-'] then -n else n)).map fun n => (n, rest)
  else
    let digits := whole ++ fraction ++ exponent
    let finite := ((Decimal.ofChars? digits).map Decimal.isFinite).getD false
    if finite ∨ sign = ['-'] then .ok (.float (String.ofList (sign ++ digits)), rest)
    else .error .numberOutOfRange

def readNumber (cs : List Char) : Except Problem (Numeral × List Char) :=
  match cs with
  | '0' :: 'x' :: ds => readBased 16 ds
  | '0' :: 'o' :: ds => readBased 8 ds
  | '0' :: 'b' :: ds => readBased 2 ds
  | cs => readDecimal cs

/-! ## Dates and times -/

/-- Reads a number of `width` digits within bounds. -/
def readField (width low high : Nat) (cs : List Char) : Option (Nat × List Char) := do
  let ds := cs.take width
  if ds.length ≠ width ∨ !ds.all Char.isDigit then none
  let n := Digits.toNat 10 ds
  if n < low ∨ high < n then none
  return (n, cs.drop width)

def readChar (c : Char) (cs : List Char) : Option (List Char) :=
  if cs.head? = some c then some cs.tail else none

def isLeapYear (year : Nat) : Bool := year % 4 = 0 && (year % 100 ≠ 0 || year % 400 = 0)

def daysIn (year month : Nat) : Nat :=
  if month = 2 then if isLeapYear year then 29 else 28
  else if month = 4 ∨ month = 6 ∨ month = 9 ∨ month = 11 then 30
  else 31

/-- The text behind a date. -/
def readDate (cs : List Char) : Option (List Char) := do
  let (year, cs) ← readField 4 0 9999 cs
  let cs ← readChar '-' cs
  let (month, cs) ← readField 2 1 12 cs
  let cs ← readChar '-' cs
  let (_, cs) ← readField 2 1 (daysIn year month) cs
  return cs

/-- The text behind hours and minutes. -/
def readClock (cs : List Char) : Option (List Char) := do
  let (_, cs) ← readField 2 0 23 cs
  let cs ← readChar ':' cs
  let (_, cs) ← readField 2 0 59 cs
  return cs

/-- The text behind a time of day; there may be a second too many. -/
def readTime (cs : List Char) : Option (List Char) := do
  let cs ← readClock cs
  let cs ← readChar ':' cs
  let (_, cs) ← readField 2 0 60 cs
  match cs with
  | '.' :: d :: r => if d.isDigit then some (r.dropWhile Char.isDigit) else some cs
  | cs => some cs

/-- The text behind the offset from universal time. -/
def readOffset (cs : List Char) : Option (List Char) :=
  match cs with
  | c :: r =>
    if c = 'Z' ∨ c = 'z' then some r
    else if c = '+' ∨ c = '-' then readClock r
    else none
  | [] => none

/-- The text behind the time that may follow a date. -/
def readTimeOfDate (cs : List Char) : Option (List Char) :=
  match cs with
  | c :: r =>
    if c = 'T' ∨ c = 't' ∨ c = ' ' then
      (readTime r).map fun r => (readOffset r).getD r
    else none
  | [] => none

/-- The text behind a date, a time or both. -/
def afterDateTime? (cs : List Char) : Option (List Char) :=
  match readDate cs with
  | some r => some ((readTimeOfDate r).getD r)
  | none => readTime cs

end PluginHost.Toml
