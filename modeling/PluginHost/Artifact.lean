import PluginHost.AuditLog

/-!
# Known libraries

The libraries that a file system can hold, by name.  All but the audit log do nothing but come
back with fixed statuses, a hook for which none is given being absent.
-/

namespace PluginHost.Artifact

variable {σ ν : Type}

structure Statuses where
  init : Option Int32
  start : Option Int32
  exit : Option Int32
  reset : Option Int32
  begin : Option Int32
  complete : Option Int32
  finish : Option Int32
  abort : Option Int32

def Statuses.phase (s : Statuses) : Phase → Option Int32
  | .begin => s.begin
  | .complete => s.complete
  | .finish => s.finish
  | .abort => s.abort

def Statuses.library (s : Statuses) : Library σ ν where
  init := s.init.map fun code _ _ state => .finish [] state (.status code)
  start := s.start.map fun code _ _ => pure (.status code)
  exit := s.exit.map fun code _ _ => pure (.status code)
  reset := s.reset.map fun code _ _ => pure (.status code)
  phase := fun ph => (s.phase ph).map fun code _ _ => pure (.status code)

def statuses? (name : String) : Option Statuses :=
  if name = "none" then some ⟨none, none, none, none, none, none, none, none⟩
  else if name = "ok" then some ⟨some 0, some 0, some 0, some 0, some 0, some 0, some 0, some 0⟩
  else if name = "positive" then
    some ⟨some 1, some 5, some 2147483647, some 2, some 3, some 4, some 6, some 7⟩
  else if name = "init_fail" then
    some ⟨some (-7), none, some (-1), none, some 0, none, none, none⟩
  else if name = "start_fail" then
    some ⟨none, some (-2147483648), some 0, none, none, none, none, none⟩
  else if name = "reset_fail" then some ⟨none, none, none, some (-4), none, none, none, none⟩
  else if name = "begin_fail" then some ⟨none, none, none, none, some (-3), none, none, some 0⟩
  else if name = "complete_fail" then some ⟨none, none, none, none, none, some (-5), none, none⟩
  else if name = "end_fail" then some ⟨none, none, none, none, none, none, some (-6), none⟩
  else if name = "exit_abort_fail" then
    some ⟨none, none, some (-9), none, none, none, none, some (-8)⟩
  else none

def library? (files : Files σ) (name : String) : Option (Library σ ν) :=
  if name = "audit" then some (AuditLog.library files)
  else (statuses? name).map Statuses.library

end PluginHost.Artifact
