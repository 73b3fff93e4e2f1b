import PluginHost.Proofs.Backend
import PluginHost.Proofs.Dispatcher.Career

/-!
# The life of plugins over whole runs

Over any run of a backend, every plugin that is handed over has a career: it is refused, or it is
called first by its init hook, then by others, and last, at the first stop, by its exit hook.

    any commands to a new backend, any plugin handed over → Career           (career_of_handed_over)
-/

namespace PluginHost.Backend

open Dispatcher (callsTo Midlife)

variable {σ ν : Type}

/-- Carries out commands on the new backend of a configuration. -/
def live (cfg : Config) (commands : List (Command σ ν)) : Act σ (Event ν) (Backend σ ν) := do
  (← create cfg).obey commands

theorem plays_live (cfg : Config) (commands : List (Command σ ν)) (s : σ) :
    ∃ b moves, List.Forall₂ (Command.Spells cfg) commands moves ∧
      Plays (live cfg commands) s b .empty moves.flatten b.manager.dispatcher := by
  let new : Backend σ ν := ⟨cfg, false, false, .ofConfig cfg, 1⟩
  obtain ⟨b, moves, hc, h⟩ := new.leads_obey s commands
  refine ⟨b, moves, hc, ?_⟩
  have hcreate : Plays (create cfg) s new .empty [] .empty :=
    (Plays.log _ _ s).quiet_bind ((Plays.log _ _ s).quiet_bind (Plays.pure _ _))
  exact hcreate.quiet_bind h.plays

/-- A run of a backend comes to moves of which only stops end plugins, and every plugin that they
register has its career, from where the moves before have come to through all those after. -/
theorem career_of_handed_over (cfg : Config) (commands : List (Command σ ν)) (s : σ) :
    ∃ b moves, List.Forall₂ (Command.Spells cfg) commands moves ∧
      Plays (live cfg commands) s b .empty moves.flatten b.manager.dispatcher ∧
      (∀ m ∈ moves.flatten, m.ends = true → m = .stop cfg) ∧
      ∀ past p future, moves.flatten = past ++ .register cfg p :: future →
        Dispatcher.Career (Dispatcher.empty.play past s) cfg p future := by
  obtain ⟨b, moves, hc, h⟩ := plays_live cfg commands s
  refine ⟨b, moves, hc, h, fun m hm he => eq_stop_of_mem_flatten hc hm he, fun past p future _ => ?_⟩
  exact (Dispatcher.sound_empty.play past s).career cfg p future

/-! ## Three guests -/

/-- A plugin whose init hook comes out as given, and whose exit hook fails. -/
def guest (name : String) (init : Outcome) : Plugin Unit Unit :=
  ⟨name, none, some fun _ _ s => .finish [] s init, none,
    some fun _ _ => pure (.failed (.message "stuck")), none, fun _ => none⟩

/-- One guest comes in, one fails to, and another of the first one's name is refused. -/
def visit : List (Command Unit Unit) :=
  [.register (guest "ann" .done), .register (guest "bob" (.panicked .other)),
    .register (guest "ann" .done), .shutdown]

/-- The moves of the visit. -/
def visitMoves : List (Move Unit Unit) :=
  [.register .standard (guest "ann" .done),
    .register .standard (guest "bob" (.panicked .other)),
    .register .standard (guest "ann" .done), .stop .standard]

theorem flatten_of_spells_visit {moves : List (List (Move Unit Unit))}
    (h : List.Forall₂ (Command.Spells .standard) visit moves) : moves.flatten = visitMoves := by
  rcases h with _ | ⟨h₁, _ | ⟨h₂, _ | ⟨h₃, _ | ⟨h₄, _ | _⟩⟩⟩⟩
  obtain rfl := h₁
  obtain rfl := h₂
  obtain rfl := h₃
  obtain rfl := h₄
  rfl

/-- The first guest is called by its init hook and last by its exit hook, the second, whose init hook
failed, by no exit hook, and the third is refused. -/
theorem career_of_handed_over_visit :
    let met n := (Dispatcher.empty : Dispatcher Unit Unit).play (visitMoves.take n) ()
    (∃ b, Plays (live .standard visit) () b .empty visitMoves b.manager.dispatcher) ∧
    (∃ others, Midlife "ann" others ∧
      callsTo "ann" ((met 0).value.play visitMoves (met 0).state).trace
        = [.init "ann"] ++ others ++ [.exit "ann"]) ∧
    (∃ others, Midlife "bob" others ∧
      callsTo "bob" ((met 1).value.play (visitMoves.drop 1) (met 1).state).trace
        = [.init "bob"] ++ others ++ []) ∧
    ((met 2).value.register .standard (guest "ann" .done) (met 2).state).value
      = (.error (.duplicate "ann"), (met 2).value) := by
  intro met
  obtain ⟨b, moves, hspells, hplays, -, hcareer⟩ := career_of_handed_over .standard visit ()
  rw [flatten_of_spells_visit hspells] at hplays hcareer
  have hann := (hcareer [] _ _ rfl).stopped (by decide +kernel)
    [.register .standard (guest "bob" (.panicked .other)), .register .standard (guest "ann" .done)]
    .standard [] rfl (by simp [Move.ends])
  have hbob := (hcareer (visitMoves.take 1) _ _ rfl).stopped (by decide +kernel)
    [.register .standard (guest "ann" .done)] .standard [] rfl (by simp [Move.ends])
  have hcarl := (hcareer (visitMoves.take 2) _ _ rfl).refused (by decide +kernel)
  exact ⟨⟨b, hplays⟩, hann.1, hbob.1, hcarl.1⟩

end PluginHost.Backend
