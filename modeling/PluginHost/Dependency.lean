import PluginHost.Datum
import PluginHost.Key

/-!
# Dependencies

A dependency is a callback that a plugin installs on a key, or on the subtree below it, either for
validating a change set or for committing it.  The callback is of any type `γ`; nothing here looks
at it.
-/

namespace PluginHost

/-- The four sorts of dependency: on a key or a subtree, called at commit or at validation. -/
structure Dependency.Kind where
  tree : Bool
  validate : Bool
deriving DecidableEq, Repr, Inhabited

namespace Dependency.Kind

/-- On a key, at commit. -/
def key : Kind := ⟨false, false⟩

/-- On a subtree, at commit. -/
def subtree : Kind := ⟨true, false⟩

/-- On a key, at validation. -/
def validateKey : Kind := ⟨false, true⟩

/-- On a subtree, at validation. -/
def validateSubtree : Kind := ⟨true, true⟩

def text : Kind → String
  | ⟨false, false⟩ => "key"
  | ⟨true, false⟩ => "tree"
  | ⟨false, true⟩ => "validate-key"
  | ⟨true, true⟩ => "validate-tree"

def label : Kind → String
  | ⟨false, false⟩ => "Key"
  | ⟨true, false⟩ => "Tree"
  | ⟨false, true⟩ => "ValidateKey"
  | ⟨true, true⟩ => "ValidateTree"

def ofText? (s : String) : Option Kind :=
  [key, subtree, validateKey, validateSubtree].find? fun k => k.text = s

end Dependency.Kind

/-- A registered callback. -/
structure Dependency (γ : Type) where
  id : Nat
  plugin : String
  priority : UInt16
  kind : Dependency.Kind
  key : String
  arg : Option Datum
  callback : γ

namespace Dependency

/-- Whether a change to a key concerns a dependency. -/
def matchesKey {γ : Type} (d : Dependency γ) (key : String) : Bool :=
  if d.kind.tree then Key.covers d.key key else d.key = key

end Dependency

/-- Why a dependency cannot be registered. -/
inductive RegistrationError where
  | unknownPlugin (name : String)
  | invalidKey (key : String) (fault : Key.Fault)
deriving DecidableEq, Repr, Inhabited

def RegistrationError.message : RegistrationError → String
  | .unknownPlugin name => "No registered plugin named '" ++ name ++ "'"
  | .invalidKey key fault => "Invalid key '" ++ key ++ "': " ++ fault.text

end PluginHost
