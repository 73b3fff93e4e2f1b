import PluginHost.ArgVector
import PluginHost.Plugin

/-!
# Plugin libraries

A library exports any of the eight hooks under their symbols.  Its hooks come back with a status or
panic, and what they log is not seen.  `Plugin.ofLibrary` makes a plugin of it: a negative status is
a failure, and start arguments cross as an argument vector.
-/

namespace PluginHost

/-- The exported hooks of a library. -/
structure Library (σ ν : Type) where
  init : Option (InitHook σ ν Exported)
  start : Option (Hook σ ν ArgVector Exported)
  exit : Option (Hook σ ν Unit Exported)
  reset : Option (Hook σ ν Unit Exported)
  phase : Phase → Option (Hook σ ν Transaction Exported)

def Library.empty {σ ν : Type} : Library σ ν := ⟨none, none, none, none, fun _ => none⟩

/-- Whether a note is no log record. -/
def Note.isOwn {ν : Type} : Note ν → Bool
  | .log _ => false
  | .note _ => true

/-- The act without its log. -/
def Act.quiet {σ ν α : Type} (m : Act σ (Note ν) α) : Act σ (Note ν) α := fun s =>
  ⟨(m s).value, (m s).state, (m s).trace.filter Note.isOwn⟩

def Setup.quiet {σ ν ρ : Type} : Setup σ ν ρ → Setup σ ν ρ
  | .finish notes state result => .finish (notes.filter Note.isOwn) state result
  | .register notes r resume =>
    .register (notes.filter Note.isOwn)
      ⟨r.kind, r.priority, r.key, r.arg, fun cfg op view => (r.callback cfg op view).quiet⟩
      fun answer => (resume answer).quiet

/-- The hook of a plugin that an exported hook is. -/
def Hook.ofExported {σ ν ι : Type} (h : Hook σ ν ι Exported) : Hook σ ν ι Outcome := fun cfg i => do
  return (← (h cfg i).quiet).outcome

def Plugin.ofLibrary {σ ν : Type} (name : String) (path : Path) (lib : Library σ ν) :
    Plugin σ ν where
  name := name
  path := some path
  init := lib.init.map fun h cfg registrar s => ((h cfg registrar s).map Exported.outcome).quiet
  start := lib.start.map fun h cfg args => h.ofExported cfg (ArgVector.ofList args)
  exit := lib.exit.map Hook.ofExported
  reset := lib.reset.map Hook.ofExported
  phase := fun ph => (lib.phase ph).map Hook.ofExported

end PluginHost
