/-!
# Acts

An act is a step of a run: from a state it gives a value, the next state, and what it left in the
trace, in order.  Acts follow one another as in any state monad, their traces joined.
-/

namespace PluginHost

/-- How an act ends. -/
structure Ran (σ ε α : Type) where
  value : α
  state : σ
  trace : List ε

/-- A step of a run. -/
def Act (σ ε α : Type) : Type := σ → Ran σ ε α

namespace Act

variable {σ ε δ α β : Type}

/-- Gives a value and does nothing else. -/
def give (a : α) : Act σ ε α := fun s => ⟨a, s, []⟩

/-- One act after another. -/
def andThen (m : Act σ ε α) (f : α → Act σ ε β) : Act σ ε β := fun s =>
  let r := m s
  let q := f r.value r.state
  ⟨q.value, q.state, r.trace ++ q.trace⟩

instance : Monad (Act σ ε) where
  pure := give
  bind := andThen

@[simp] theorem run_pure (a : α) (s : σ) : (pure a : Act σ ε α) s = ⟨a, s, []⟩ := rfl

@[simp] theorem run_bind (m : Act σ ε α) (f : α → Act σ ε β) (s : σ) :
    (m >>= f) s = ⟨(f (m s).value (m s).state).value, (f (m s).value (m s).state).state,
      (m s).trace ++ (f (m s).value (m s).state).trace⟩ := rfl

def get : Act σ ε σ := fun s => ⟨s, s, []⟩

def modify (f : σ → σ) : Act σ ε Unit := fun s => ⟨(), f s, []⟩

def emit (e : ε) : Act σ ε Unit := fun s => ⟨(), s, [e]⟩

def mapTrace (f : ε → δ) (m : Act σ ε α) : Act σ δ α := fun s =>
  ⟨(m s).value, (m s).state, (m s).trace.map f⟩

end Act

end PluginHost
