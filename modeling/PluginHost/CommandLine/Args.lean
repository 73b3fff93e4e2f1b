/-!
# Command line arguments

    [OPTIONS] [COMMAND]
      -f, --config FILE      -d, --plugin-dir DIR    --system-dir DIR    --master NAME
      -D, --debug            -V, --version (only in front of the command)
    run [--once] [--reset] [-- ARGS...]
    list
    commit -c, --changes FILE [--validate-only]

The options may stand in front of the command or behind it; behind it they win.  An option is given
at most once in each of the two places.  Its value stands in the same argument, behind an equals
sign or right behind the letter, or in the next one, which then must not look like an option.
Letters may be joined.  File names are not empty.  After `--` all arguments belong to `run`.
-/

namespace PluginHost.CommandLine

/-- The options that go with any command. -/
structure Options where
  config : Option String
  pluginDir : Option String
  systemDir : Option String
  master : Option String
  debug : Bool
deriving DecidableEq, Repr, Inhabited

inductive Command where
  | run (once reset : Bool) (args : List String)
  | list
  | commit (changes : String) (validateOnly : Bool)
deriving DecidableEq, Repr, Inhabited

/-- What arguments ask for. -/
inductive Request where
  | version
  | command (o : Options) (c : Command)
deriving DecidableEq, Repr, Inhabited

/-! ## Options -/

inductive Name where
  | config
  | pluginDir
  | systemDir
  | master
  | changes
  | debug
  | once
  | reset
  | validateOnly
  | version
deriving DecidableEq, Repr, Inhabited

def Name.hasValue : Name → Bool
  | .config => true
  | .pluginDir => true
  | .systemDir => true
  | .master => true
  | .changes => true
  | _ => false

def Name.allowsEmpty : Name → Bool
  | .master => true
  | _ => false

/-- Where options are read: in front of the command, or behind the name of one. -/
inductive Level where
  | top
  | run
  | list
  | commit
deriving DecidableEq, Repr, Inhabited

/-- The option of a word behind two dashes. -/
def long? (level : Level) (word : String) : Option Name :=
  if word = "config" then some .config
  else if word = "plugin-dir" then some .pluginDir
  else if word = "system-dir" then some .systemDir
  else if word = "master" then some .master
  else if word = "debug" then some .debug
  else if word = "version" ∧ level = .top then some .version
  else if word = "once" ∧ level = .run then some .once
  else if word = "reset" ∧ level = .run then some .reset
  else if word = "changes" ∧ level = .commit then some .changes
  else if word = "validate-only" ∧ level = .commit then some .validateOnly
  else none

/-- The option of a letter behind one dash. -/
def short? (level : Level) (c : Char) : Option Name :=
  if c = 'f' then some .config
  else if c = 'd' then some .pluginDir
  else if c = 'D' then some .debug
  else if c = 'V' ∧ level = .top then some .version
  else if c = 'c' ∧ level = .commit then some .changes
  else none

/-- The options given at one level, with their values. -/
abbrev Given : Type := List (Name × String)

def Given.value? (g : Given) (n : Name) : Option String := (g.find? fun e => e.1 = n).map (·.2)

def Given.has (g : Given) (n : Name) : Bool := (g.value? n).isSome

/-- Adds an option, if it may stand here. -/
def Given.add? (g : Given) (n : Name) (value : String) : Option Given :=
  if g.has n then none
  else if n.hasValue && !n.allowsEmpty && value = "" then none
  else some ((n, value) :: g)

/-! ## Arguments -/

inductive Shape where
  | separator
  | long (word : String) (value : Option String)
  | short (letters : List Char)
  | word (w : String)
deriving DecidableEq, Repr, Inhabited

/-- The shape of an argument.  A single dash is a word. -/
def Shape.of (arg : String) : Shape :=
  match arg.toList with
  | ['-', '-'] => .separator
  | '-' :: '-' :: cs =>
    let name := String.ofList (cs.takeWhile (· ≠ '='))
    match cs.dropWhile (· ≠ '=') with
    | _ :: value => .long name (some (String.ofList value))
    | [] => .long name none
  | '-' :: c :: cs => .short (c :: cs)
  | _ => .word arg

/-- What reading options at a level comes to. -/
inductive Step where
  | refused
  | version
  | given (g : Given)
  | awaits (g : Given) (n : Name)

/-- Reads joined letters. -/
def readLetters (level : Level) (g : Given) : List Char → Step
  | [] => .given g
  | c :: cs =>
    match short? level c with
    | none => .refused
    | some .version => .version
    | some n =>
      if n.hasValue then
        match cs with
        | [] => .awaits g n
        | '=' :: value =>
          match g.add? n (String.ofList value) with
          | none => .refused
          | some g => .given g
        | value =>
          match g.add? n (String.ofList value) with
          | none => .refused
          | some g => .given g
      else
        match g.add? n "" with
        | none => .refused
        | some g => readLetters level g cs

/-- Reads an option written as a word. -/
def readLong (level : Level) (g : Given) (word : String) (value : Option String) : Step :=
  match long? level word with
  | none => .refused
  | some .version => if value.isSome then .refused else .version
  | some n =>
    match n.hasValue, value with
    | true, none => .awaits g n
    | true, some v =>
      match g.add? n v with
      | none => .refused
      | some g => .given g
    | false, none =>
      match g.add? n "" with
      | none => .refused
      | some g => .given g
    | false, some _ => .refused

/-- What one level of arguments comes to: its options, and what follows them. -/
inductive Section where
  | refused
  | version
  | finished (g : Given)
  | word (g : Given) (w : String) (rest : List String)
  | separated (g : Given) (rest : List String)

/-- Reads the options of a level, up to the first word, separator or end.  `waiting` is an option
whose value comes next. -/
def readSection (level : Level) (g : Given) (waiting : Option Name) : List String → Section
  | [] => if waiting.isSome then .refused else .finished g
  | arg :: rest =>
    match Shape.of arg, waiting with
    | .word w, some n =>
      match g.add? n w with
      | none => .refused
      | some g => readSection level g none rest
    | .word w, none => .word g w rest
    | _, some _ => .refused
    | .separator, none => .separated g rest
    | .long name value, none =>
      match readLong level g name value with
      | .refused => .refused
      | .version => .version
      | .given g => readSection level g none rest
      | .awaits g n => readSection level g (some n) rest
    | .short letters, none =>
      match readLetters level g letters with
      | .refused => .refused
      | .version => .version
      | .given g => readSection level g none rest
      | .awaits g n => readSection level g (some n) rest

/-! ## Commands -/

def Options.of (top sub : Given) : Options :=
  let value (n : Name) : Option String := (sub.value? n).or (top.value? n)
  ⟨value .config, value .pluginDir, value .systemDir, value .master,
    top.has .debug || sub.has .debug⟩

/-- The command at a level with given options and arguments. -/
def Command.of? (level : Level) (g : Given) (args : List String) : Option Command :=
  match level with
  | .top => if args.isEmpty then some (.run false false []) else none
  | .run => some (.run (g.has .once) (g.has .reset) args)
  | .list => if args.isEmpty then some .list else none
  | .commit =>
    if args.isEmpty then (g.value? .changes).map fun file => .commit file (g.has .validateOnly)
    else none

def Level.of? (w : String) : Option Level :=
  if w = "run" then some .run
  else if w = "list" then some .list
  else if w = "commit" then some .commit
  else none

/-- What the arguments behind the name of a command ask for. -/
def readCommand? (level : Level) (top : Given) (args : List String) : Option Request :=
  match readSection level [] none args with
  | .finished g => (Command.of? level g []).map (.command (.of top g))
  | .separated g rest => (Command.of? level g rest).map (.command (.of top g))
  | _ => none

/-- What arguments ask for, if they are in order. -/
def Request.of? (args : List String) : Option Request :=
  match readSection .top [] none args with
  | .version => some .version
  | .finished g => (Command.of? .top g []).map (.command (.of g []))
  | .separated g rest => (Command.of? .top g rest).map (.command (.of g []))
  | .word g w rest => (Level.of? w).bind fun level => readCommand? level g rest
  | .refused => none

end PluginHost.CommandLine
