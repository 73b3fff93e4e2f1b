import PluginHost.Yaml.Cursor

/-!
# Tokens of YAML

The words and brackets of a YAML text.  Block sequences and mappings, which are told by their
indentation alone, have brackets of their own, and every key has a mark in front.
-/

namespace PluginHost.Yaml

/-- How a scalar is laid out. -/
inductive Layout where
  | plain
  | quoted
  | literal
  | folded
deriving DecidableEq, Repr, Inhabited

inductive Token where
  | version (major minor : Nat)
  | tagHandle (handle uri : String)
  | documentStart
  | documentEnd
  | blockSequence
  | blockMapping
  | blockEnd
  | flowSequence
  | flowSequenceEnd
  | flowMapping
  | flowMappingEnd
  | entry
  | comma
  | key
  | value
  | alias (name : String)
  | anchor (name : String)
  | tag (handle rest : String)
  | scalar (layout : Layout) (text : String)
deriving DecidableEq, Repr, Inhabited

end PluginHost.Yaml
