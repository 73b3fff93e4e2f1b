import PluginHost.Proofs.Backend

/-!
# Conversations with a backend

A backend answers a command with an error, or with nothing that matters here.  Commands with their
answers are a conversation.  What a backend is at its end can often be told from the conversation:
if every exchange says what it sets and what it clears, then what holds at the end was set, and not
cleared since.

    b.command c = do return (← b.tell c).2                                             (command_eq)
    P holds at the end ↔ it was set and not cleared since, or held all along   (iff_since_converse)
-/

namespace PluginHost

variable {σ ν : Type}

/-- The error that something came back with, in the words of the host. -/
def errorOf? {α ε : Type} (wrap : ε → HostError) : Except ε α → Option HostError
  | .ok _ => none
  | .error e => some (wrap e)

/-! ## Answers -/

namespace Manager

/-- Carries out a command and gives the error it came back with. -/
def tell (m : Manager σ ν) (cfg : Config) :
    Command σ ν → Act σ (Event ν) (Option HostError × Manager σ ν)
  | .register p => do
    let (r, m) ← m.register cfg p
    return (errorOf? .plugin r, m)
  | .load disk path => do
    let (r, m) ← m.loadPlugin disk cfg path
    return (errorOf? .plugin r, m)
  | .loadDir disk dir => do
    let (r, m) ← m.loadDir disk cfg dir
    return (errorOf? .plugin r, m)
  | .setUp disk => do
    let (r, m) ← m.setUp disk cfg
    return (errorOf? .plugin r, m)
  | .setStartArgs args => pure (none, m.setStartArgs args)
  | .start => do return (errorOf? .plugin (← m.start cfg), m)
  | .reset => do return (errorOf? .plugin (← m.dispatcher.reset cfg), m)
  | .commit tx => do return (errorOf? .transaction (← m.dispatcher.commit cfg tx), m)
  | .validate tx => do return (errorOf? .transaction (← m.dispatcher.validate cfg tx), m)
  | .stop => do return (none, ← m.stop cfg)

theorem command_eq (m : Manager σ ν) (cfg : Config) (c : Command σ ν) :
    m.command cfg c = do return (← m.tell cfg c).2 := by
  funext s
  cases c <;> simp only [command, tell, Act.run_bind, Act.run_pure, List.append_nil]

end Manager

namespace Backend

def tell (b : Backend σ ν) : Command σ ν → Act σ (Event ν) (Option HostError × Backend σ ν)
  | .register p => do
    let (r, b) ← b.register p
    return (errorOf? id r, b)
  | .setUp disk => do
    let (r, b) ← b.setUp disk
    return (errorOf? id r, b)
  | .start args => do
    let (r, b) ← b.start args
    return (errorOf? id r, b)
  | .run disk args => do
    let (r, b) ← b.run disk args
    return (errorOf? id r, b)
  | .reset => do return (errorOf? id (← b.reset), b)
  | .commit changes => do
    let (r, b) ← b.commit changes
    return (errorOf? id r, b)
  | .validate changes => do
    let (r, b) ← b.validate changes
    return (errorOf? id r, b)
  | .shutdown => do return (none, ← b.shutdown)
  | .manager c => do
    let (e, m) ← b.manager.tell b.config c
    return (e, b.within m)

/-- A command and the error it came back with. -/
structure Exchange (σ ν : Type) where
  command : Command σ ν
  error? : Option HostError

/-- Carries out commands one after another and gives them with their errors. -/
def converse (b : Backend σ ν) :
    List (Command σ ν) → Act σ (Event ν) (List (Exchange σ ν) × Backend σ ν)
  | [] => pure ([], b)
  | c :: commands => do
    let (e, b) ← b.tell c
    let (later, b) ← b.converse commands
    return (⟨c, e⟩ :: later, b)

theorem command_eq (b : Backend σ ν) (c : Command σ ν) :
    b.command c = do return (← b.tell c).2 := by
  funext s
  cases c <;>
    simp only [command, tell, Manager.command_eq, Act.run_bind, Act.run_pure, List.append_nil]

theorem obey_eq (b : Backend σ ν) (commands : List (Command σ ν)) :
    b.obey commands = do return (← b.converse commands).2 := by
  induction commands generalizing b with
  | nil => rfl
  | cons c commands ih =>
    funext s
    simp only [obey, converse, command_eq, ih, Act.run_bind, Act.run_pure, List.append_nil]

/-! ## What holds at the end -/

/-- Something was set by an exchange, and by none since cleared. -/
def Since (sets clears : Exchange σ ν → Prop) (talk : List (Exchange σ ν)) : Prop :=
  ∃ before x after, talk = before ++ x :: after ∧ sets x ∧ ∀ y ∈ after, ¬ clears y

variable {sets clears : Exchange σ ν → Prop}

theorem not_since_nil : ¬ Since sets clears [] := by
  rintro ⟨before, x, after, h, -⟩
  cases before <;> cases h

theorem since_cons (x : Exchange σ ν) (talk : List (Exchange σ ν)) :
    Since sets clears (x :: talk) ↔
      sets x ∧ (∀ y ∈ talk, ¬ clears y) ∨ Since sets clears talk :=
  exists_split_cons x talk

/-- What each exchange sets or leaves, unless it clears it, holds at the end of a conversation just
if it was set and not cleared since, or held before and was never cleared. -/
theorem iff_since_converse {P : Backend σ ν → Prop}
    (step : ∀ (b : Backend σ ν) c s, P (b.tell c s).value.2 ↔
      sets ⟨c, (b.tell c s).value.1⟩ ∨ P b ∧ ¬ clears ⟨c, (b.tell c s).value.1⟩)
    (b : Backend σ ν) (commands : List (Command σ ν)) (s : σ) :
    let talk := b.converse commands s
    P talk.value.2 ↔ Since sets clears talk.value.1 ∨ P b ∧ ∀ x ∈ talk.value.1, ¬ clears x := by
  induction commands generalizing b s with
  | nil => simp [converse, not_since_nil]
  | cons c commands ih =>
    have hrest := ih (b.tell c s).value.2 (b.tell c s).state
    rw [step] at hrest
    simp only [converse, Act.run_bind, Act.run_pure]
    rw [since_cons, List.forall_mem_cons]
    refine hrest.trans ?_
    tauto

end Backend

end PluginHost
