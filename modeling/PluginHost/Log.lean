/-!
# Log records

A record has a level and a text; a limit lets through the records at or below its level.
-/

namespace PluginHost.Log

/-- Levels, from the gravest on. -/
inductive Level where
  | error
  | warn
  | info
  | debug
  | trace
deriving DecidableEq, Repr, Inhabited

/-- The place of a level, counted from one. -/
def Level.rank : Level → Nat
  | .error => 1
  | .warn => 2
  | .info => 3
  | .debug => 4
  | .trace => 5

def Level.name : Level → String
  | .error => "ERROR"
  | .warn => "WARN"
  | .info => "INFO"
  | .debug => "DEBUG"
  | .trace => "TRACE"

def Level.ofWord? (w : String) : Option Level :=
  [error, warn, info, debug, trace].find? fun l => l.name.toList.map Char.toLower = w.toList

structure Record where
  level : Level
  text : String
deriving DecidableEq, Repr, Inhabited

/-- Whether a limit lets a record through; no limit lets nothing through. -/
def Record.passes (r : Record) : Option Level → Bool
  | none => false
  | some l => r.level.rank ≤ l.rank

def Record.line (r : Record) : String := r.level.name ++ " " ++ r.text

end PluginHost.Log
