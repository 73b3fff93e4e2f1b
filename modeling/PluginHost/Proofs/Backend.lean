import PluginHost.Backend
import PluginHost.Proofs.Manager

/-!
# The backend plays moves

Whatever a backend is told, by itself or through its plugin manager, comes to moves of its
dispatcher, all with the one configuration of the backend.  Shutting down is always one stop; no
other command ends the life of a plugin.

    b.command c plays moves that c spells                                          (leads_command)
    commands play the moves that they spell, one after another                        (leads_obey)
    an end among the moves of commands is a stop                         (eq_stop_of_mem_flatten)
-/

namespace PluginHost.Backend

variable {σ ν : Type}

inductive Command (σ ν : Type) where
  | register (p : Plugin σ ν)
  | setUp (disk : Disk σ ν)
  | start (args : List String)
  | run (disk : Disk σ ν) (args : List String)
  | reset
  | commit (changes : ChangeSet)
  | validate (changes : ChangeSet)
  | shutdown
  | manager (c : Manager.Command σ ν)

def command (b : Backend σ ν) : Command σ ν → Act σ (Event ν) (Backend σ ν)
  | .register p => do return (← b.register p).2
  | .setUp disk => do return (← b.setUp disk).2
  | .start args => do return (← b.start args).2
  | .run disk args => do return (← b.run disk args).2
  | .reset => do
    let _ ← b.reset
    return b
  | .commit changes => do return (← b.commit changes).2
  | .validate changes => do return (← b.validate changes).2
  | .shutdown => b.shutdown
  | .manager c => do return b.within (← b.manager.command b.config c)

def obey (b : Backend σ ν) : List (Command σ ν) → Act σ (Event ν) (Backend σ ν)
  | [] => pure b
  | c :: commands => do (← b.command c).obey commands

/-- The moves that a command may come to. -/
def Command.Spells (cfg : Config) : Command σ ν → List (Move σ ν) → Prop
  | .register p, moves => moves = [.register cfg p]
  | .setUp disk, moves => ∃ loads rest, Move.Loading disk cfg loads ∧
    rest.Sublist [.reset cfg] ∧ moves = loads ++ rest
  | .start args, moves => moves.Sublist [.start cfg args]
  | .run disk args, moves => ∃ loads rest, Move.Loading disk cfg loads ∧
    rest.Sublist [.reset cfg, .start cfg args] ∧ moves = loads ++ rest
  | .reset, moves => moves = [.reset cfg]
  | .commit changes, moves => ∃ id, moves.Sublist [.commit cfg (.ofChangeSet id cfg changes)]
  | .validate changes, moves => ∃ id, moves.Sublist [.validate cfg (.ofChangeSet id cfg changes)]
  | .shutdown, moves => moves = [.stop cfg]
  | .manager c, moves => c.Spells cfg moves

/-! ## What commands come to -/

/-- An act on a backend plays moves of its dispatcher and keeps its configuration. -/
structure Leads {α : Type} (m : Act σ (Event ν) α) (s : σ) (a : α) (b : Backend σ ν)
    (moves : List (Move σ ν)) (b' : Backend σ ν) : Prop where
  plays : Plays m s a b.manager.dispatcher moves b'.manager.dispatcher
  config : b'.config = b.config

variable (b : Backend σ ν) (s : σ)

theorem plays_reset :
    ∃ r, Plays b.reset s r b.manager.dispatcher [.reset b.config] b.manager.dispatcher :=
  ⟨_, (Plays.log _ _ s).quiet_bind ((Plays.of_keeping rfl s).bind_quiet (Plays.pure _ _))⟩

theorem leads_register (p : Plugin σ ν) :
    ∃ r b', Leads (b.register p) s (r, b') b [.register b.config p] b' := by
  obtain ⟨r, m', h⟩ := b.manager.plays_register b.config p s
  exact ⟨_, b.within m', h.bind_quiet (Plays.pure _ _), rfl⟩

theorem leads_setUp (disk : Disk σ ν) :
    ∃ r b' loads rest, Move.Loading disk b.config loads ∧ rest.Sublist [.reset b.config] ∧
      Leads (b.setUp disk) s (r, b') b (loads ++ rest) b' := by
  unfold setUp
  split
  · exact ⟨_, b, [], [], .nil, List.nil_sublist _, Plays.pure _ _, rfl⟩
  obtain ⟨r, m', loads, hl, h⟩ := b.manager.plays_setUp b.config disk s
  let b' := (b.within m').flagged true b.isStarted
  have hconfig : ((b.within m').flagged true (b.within m').isStarted).config = b.config := rfl
  cases r with
  | error e =>
    refine ⟨.error (managerError .setUp e), b.within m', loads, [], hl, List.nil_sublist _, ?_, rfl⟩
    rw [List.append_nil]
    exact (Plays.log _ _ s).quiet_bind ((Plays.log _ _ s).quiet_bind
      (h.bind_quiet (Plays.pure _ _)))
  | ok u =>
    let s' := (b.manager.setUp disk b.config s).state
    by_cases hr : b.config.resetOnStart = true
    · obtain ⟨r, hreset⟩ := b'.plays_reset s'
      cases r with
      | error e =>
        refine ⟨.error e, b', loads, [.reset b.config], hl, List.Sublist.refl _, ?_, rfl⟩
        refine (Plays.log _ _ s).quiet_bind ((Plays.log _ _ s).quiet_bind (h.bind ?_))
        simp only [hconfig, if_pos hr]
        exact hreset.bind_quiet (Plays.pure _ _)
      | ok u =>
        refine ⟨.ok (), b', loads, [.reset b.config], hl, List.Sublist.refl _, ?_, rfl⟩
        refine (Plays.log _ _ s).quiet_bind ((Plays.log _ _ s).quiet_bind (h.bind ?_))
        simp only [hconfig, if_pos hr]
        exact hreset.bind_quiet ((Plays.log _ _ _).quiet_bind (Plays.pure _ _))
    · refine ⟨.ok (), b', loads, [], hl, List.nil_sublist _, ?_, rfl⟩
      refine (Plays.log _ _ s).quiet_bind ((Plays.log _ _ s).quiet_bind (h.bind ?_))
      simp only [hconfig, if_neg hr]
      exact (Plays.pure _ _).quiet_bind ((Plays.log _ _ _).quiet_bind (Plays.pure _ _))

theorem leads_start (args : List String) :
    ∃ r b' moves, moves.Sublist [.start b.config args] ∧ Leads (b.start args) s (r, b') b moves b' := by
  unfold start
  split
  · exact ⟨_, b, [], List.nil_sublist _, Plays.pure _ _, rfl⟩
  · let b' := b.within (b.manager.setStartArgs args)
    obtain ⟨r, h⟩ := b'.manager.plays_start b.config s
    cases r with
    | error e =>
      refine ⟨.error (managerError .start e), b', _, List.Sublist.refl _, ?_, rfl⟩
      exact (Plays.log _ _ s).quiet_bind ((Plays.log _ _ s).quiet_bind
        (h.bind_quiet (Plays.pure _ _)))
    | ok u =>
      refine ⟨.ok (), b'.flagged b'.isSetUp true, _, List.Sublist.refl _, ?_, rfl⟩
      exact (Plays.log _ _ s).quiet_bind ((Plays.log _ _ s).quiet_bind
        (h.bind_quiet ((Plays.log _ _ _).quiet_bind (Plays.pure _ _))))

theorem leads_run (disk : Disk σ ν) (args : List String) :
    ∃ r b' loads rest, Move.Loading disk b.config loads ∧
      rest.Sublist [.reset b.config, .start b.config args] ∧
      Leads (b.run disk args) s (r, b') b (loads ++ rest) b' := by
  obtain ⟨r, b₁, loads, first, hl, hfirst, h, hc⟩ := b.leads_setUp s disk
  unfold run
  cases r with
  | error e =>
    refine ⟨.error e, b₁, loads, first, hl, hfirst.trans (List.sublist_append_left _ _), ?_, hc⟩
    exact h.bind_quiet (Plays.pure _ _)
  | ok u =>
    obtain ⟨r, b', second, hsecond, h', hc'⟩ := b₁.leads_start (b.setUp disk s).state args
    rw [hc] at hsecond hc'
    refine ⟨r, b', loads, first ++ second, hl, hfirst.append hsecond, ?_, hc'⟩
    rw [← List.append_assoc]
    exact h.bind h'

theorem leads_commit (changes : ChangeSet) :
    ∃ r b' id moves, moves.Sublist [.commit b.config (.ofChangeSet id b.config changes)] ∧
      Leads (b.commit changes) s (r, b') b moves b' := by
  unfold commit
  split
  · let tx := Transaction.ofChangeSet b.nextTransaction b.config changes
    have h : Plays (b.manager.dispatcher.commit b.config tx) s _ b.manager.dispatcher
        [.commit b.config tx] b.manager.dispatcher := Plays.of_keeping rfl s
    exact ⟨_, (b.newTransaction changes).2, b.nextTransaction, _, List.Sublist.refl _,
      h.bind_quiet (Plays.pure _ _), rfl⟩
  · exact ⟨_, b, 0, [], List.nil_sublist _, Plays.pure _ _, rfl⟩

theorem leads_validate (changes : ChangeSet) :
    ∃ r b' id moves, moves.Sublist [.validate b.config (.ofChangeSet id b.config changes)] ∧
      Leads (b.validate changes) s (r, b') b moves b' := by
  unfold validate
  split
  · let tx := Transaction.ofChangeSet b.nextTransaction b.config changes
    have h : Plays (b.manager.dispatcher.validate b.config tx) s _ b.manager.dispatcher
        [.validate b.config tx] b.manager.dispatcher := Plays.of_keeping rfl s
    exact ⟨_, (b.newTransaction changes).2, b.nextTransaction, _, List.Sublist.refl _,
      h.bind_quiet (Plays.pure _ _), rfl⟩
  · exact ⟨_, b, 0, [], List.nil_sublist _, Plays.pure _ _, rfl⟩

theorem leads_shutdown : ∃ b', Leads b.shutdown s b' b [.stop b.config] b' := by
  obtain ⟨m', h⟩ := b.manager.plays_stop b.config s
  refine ⟨(b.within m').flagged false false, ?_, rfl⟩
  exact (Plays.log _ _ s).quiet_bind ((Plays.log _ _ s).quiet_bind
    (h.bind_quiet ((Plays.log _ _ _).quiet_bind (Plays.pure _ _))))

theorem leads_command (c : Command σ ν) :
    ∃ b' moves, c.Spells b.config moves ∧ Leads (b.command c) s b' b moves b' := by
  cases c with
  | register p =>
    obtain ⟨r, b', h, hc⟩ := b.leads_register s p
    exact ⟨b', _, rfl, h.bind_quiet (Plays.pure _ _), hc⟩
  | setUp disk =>
    obtain ⟨r, b', loads, rest, hl, hr, h, hc⟩ := b.leads_setUp s disk
    exact ⟨b', _, ⟨loads, rest, hl, hr, rfl⟩, h.bind_quiet (Plays.pure _ _), hc⟩
  | start args =>
    obtain ⟨r, b', moves, hm, h, hc⟩ := b.leads_start s args
    exact ⟨b', moves, hm, h.bind_quiet (Plays.pure _ _), hc⟩
  | run disk args =>
    obtain ⟨r, b', loads, rest, hl, hr, h, hc⟩ := b.leads_run s disk args
    exact ⟨b', _, ⟨loads, rest, hl, hr, rfl⟩, h.bind_quiet (Plays.pure _ _), hc⟩
  | reset =>
    obtain ⟨r, h⟩ := b.plays_reset s
    exact ⟨b, _, rfl, h.bind_quiet (Plays.pure _ _), rfl⟩
  | commit changes =>
    obtain ⟨r, b', id, moves, hm, h, hc⟩ := b.leads_commit s changes
    exact ⟨b', moves, ⟨id, hm⟩, h.bind_quiet (Plays.pure _ _), hc⟩
  | validate changes =>
    obtain ⟨r, b', id, moves, hm, h, hc⟩ := b.leads_validate s changes
    exact ⟨b', moves, ⟨id, hm⟩, h.bind_quiet (Plays.pure _ _), hc⟩
  | shutdown =>
    obtain ⟨b', h⟩ := b.leads_shutdown s
    exact ⟨b', _, rfl, h⟩
  | manager c =>
    obtain ⟨m', moves, hm, h⟩ := b.manager.plays_command b.config c s
    exact ⟨b.within m', moves, hm, h.bind_quiet (Plays.pure _ _), rfl⟩

theorem leads_obey (commands : List (Command σ ν)) :
    ∃ b' moves, List.Forall₂ (Command.Spells b.config) commands moves ∧
      Leads (b.obey commands) s b' b moves.flatten b' := by
  induction commands generalizing b s with
  | nil => exact ⟨b, [], .nil, Plays.pure _ _, rfl⟩
  | cons c commands ih =>
    obtain ⟨b₁, first, hc, h, hconfig⟩ := b.leads_command s c
    obtain ⟨b', moves, hcs, hs, hconfig'⟩ := ih b₁ (b.command c s).state
    rw [hconfig] at hcs hconfig'
    exact ⟨b', first :: moves, .cons hc hcs, h.bind hs, hconfig'⟩

/-! ## Ends -/

/-- The only end that a command comes to is a stop. -/
theorem Command.Spells.eq_stop {cfg : Config} {c : Command σ ν} {moves : List (Move σ ν)}
    (h : c.Spells cfg moves) {x : Move σ ν} (hx : x ∈ moves) (he : x.ends = true) :
    x = .stop cfg := by
  cases c with
  | register p =>
    obtain rfl := List.mem_singleton.1 (h ▸ hx)
    cases he
  | setUp disk =>
    obtain ⟨loads, rest, hl, hr, rfl⟩ := h
    rcases List.mem_append.1 hx with hx | hx
    · exact absurd he (Bool.eq_false_iff.1 (hl.not_ends x hx))
    · obtain rfl := List.mem_singleton.1 (hr.subset hx)
      cases he
  | start args =>
    obtain rfl := List.mem_singleton.1 (List.Sublist.subset h hx)
    cases he
  | run disk args =>
    obtain ⟨loads, rest, hl, hr, rfl⟩ := h
    rcases List.mem_append.1 hx with hx | hx
    · exact absurd he (Bool.eq_false_iff.1 (hl.not_ends x hx))
    · rcases List.mem_pair.1 (hr.subset hx) with rfl | rfl <;> cases he
  | reset =>
    obtain rfl := List.mem_singleton.1 (h ▸ hx)
    cases he
  | commit changes =>
    obtain ⟨id, h⟩ := h
    obtain rfl := List.mem_singleton.1 (h.subset hx)
    cases he
  | validate changes =>
    obtain ⟨id, h⟩ := h
    obtain rfl := List.mem_singleton.1 (h.subset hx)
    cases he
  | shutdown => exact List.mem_singleton.1 (h ▸ hx)
  | manager c => exact Manager.Command.Spells.eq_stop h hx he

/-- The moves of commands end nothing but by stops. -/
theorem eq_stop_of_mem_flatten {cfg : Config} {commands : List (Command σ ν)}
    {moves : List (List (Move σ ν))} (h : List.Forall₂ (Command.Spells cfg) commands moves)
    {x : Move σ ν} (hx : x ∈ moves.flatten) (he : x.ends = true) : x = .stop cfg := by
  induction h with
  | nil => cases hx
  | cons hc _ ih =>
    rw [List.flatten_cons, List.mem_append] at hx
    exact hx.elim (fun hx => hc.eq_stop hx he) ih

end PluginHost.Backend
