import PluginHost.Proofs.Dependency.Ids
import PluginHost.Proofs.Dispatcher.Soundness

/-!
# Ids over whole runs

Dependencies are registered by init hooks, also by those that fail in the end, and by the host.  What
a hook asks for and is answered is told by the hook itself (`Setup.recording`); the ledger of a run
holds all of it, in order, with what the host asked for.

    recording makes no difference, and records what leads from table to table        (run_recording)
    a move that forgets nothing leads from table to table by its registrations        (answers_move)
    the ids granted in a run go up                                                      (ids_ledger)
    what is found under an old id stays, or is gone once all was forgotten              (get?_play)
    all of this over any commands to a new dispatcher                          (ids_never_reused)
-/

namespace PluginHost

variable {σ ν ρ : Type}

/-! ## What an init hook registers -/

namespace Setup

/-- The same course, which also keeps what it asks for in the name of a plugin, and the answers. -/
def recording (owner : String) :
    List (Registration (Callback σ ν)) → Setup σ ν ρ →
      Setup σ ν (ρ × List (Registration (Callback σ ν)))
  | seen, .finish notes state result => .finish notes state (result, seen)
  | seen, .register notes request resume =>
    .register notes request fun answer =>
      (resume answer).recording owner (seen ++ [⟨owner, request, answer⟩])

/-- What the course of an init hook asks for, and the answers. -/
def registrations (owner : String) (course : Setup σ ν ρ) (t : Table (Callback σ ν)) :
    List (Registration (Callback σ ν)) :=
  ((course.recording owner []).run owner t).value.1.2

/-- A course that records runs as it does without, and its records lead from the table before to the
table after. -/
theorem run_recording (owner : String) (course : Setup σ ν ρ) (t : Table (Callback σ ν)) :
    let r := course.run owner t
    ∃ gs, t.Answers gs r.value.2 ∧ ∀ seen, (course.recording owner seen).run owner t
      = ⟨((r.value.1, seen ++ gs), r.value.2), r.state, r.trace⟩ := by
  induction course generalizing t with
  | finish notes state result =>
    exact ⟨[], .nil t, fun seen => by simp only [recording, run, List.append_nil]⟩
  | register notes request resume ih =>
    cases hi : t.insert owner request with
    | error e =>
      obtain ⟨gs, ha, hr⟩ := ih (.error e) t
      refine ⟨⟨owner, request, .error e⟩ :: gs, ?_, fun seen => ?_⟩
      · simp only [run, hi]
        exact .refused owner request e ha
      · simp only [recording, run, hi, hr, List.append_assoc, List.singleton_append]
    | ok grown =>
      obtain ⟨d, t'⟩ := grown
      obtain ⟨gs, ha, hr⟩ := ih (.ok d.id) t'
      refine ⟨⟨owner, request, .ok d.id⟩ :: gs, ?_, fun seen => ?_⟩
      · simp only [run, hi]
        exact .granted hi ha
      · simp only [recording, run, hi, hr, List.append_assoc, List.singleton_append]

theorem answers_run (owner : String) (course : Setup σ ν ρ) (t : Table (Callback σ ν)) :
    t.Answers (course.registrations owner t) (course.run owner t).value.2 := by
  obtain ⟨gs, ha, hr⟩ := course.run_recording owner t
  rw [registrations, hr]
  exact ha

end Setup

namespace Dispatcher

variable {d : Dispatcher σ ν} {m : Move σ ν} {s : σ} {id : Nat}

/-! ## What a move registers -/

/-- What the init hook of a plugin registers, if the plugin is new and has one. -/
def initRegistrations (d : Dispatcher σ ν) (cfg : Config) (p : Plugin σ ν) (s : σ) :
    List (Registration (Callback σ ν)) :=
  if d.registry.contains p.name then []
  else
    match p.init with
    | none => []
    | some hook => (hook cfg p.name s).registrations p.name d.table

/-- What is registered by a move, or refused: by the init hook of a new plugin, or by the host. -/
def registrations (d : Dispatcher σ ν) (m : Move σ ν) (s : σ) :
    List (Registration (Callback σ ν)) :=
  match m with
  | .register cfg p => d.initRegistrations cfg p s
  | .registerFor plugin request => [⟨plugin, request, (d.registerFor plugin request s).value.1⟩]
  | _ => []

theorem answers_register (d : Dispatcher σ ν) (cfg : Config) (p : Plugin σ ν) (s : σ) :
    d.table.Answers (d.initRegistrations cfg p s) (d.register cfg p s).value.2.table := by
  by_cases hc : d.registry.contains p.name = true
  · have hi : d.registry.insert p = .error (.duplicate p.name) := if_pos hc
    rw [initRegistrations, if_pos hc, register, hi]
    exact .nil d.table
  · have hi : d.registry.insert p = .ok (d.registry.push p) := if_neg hc
    rw [initRegistrations, if_neg hc, register, hi]
    cases p.init with
    | none => exact .nil d.table
    | some hook =>
      -- the table is what the course of the hook leaves, whether or not it went well
      let r := (hook cfg p.name s).run p.name d.table
      have hvalue : (callInit d.table cfg p.name hook s).value = (r.value.1.result, r.value.2) := rfl
      have hrun : d.table.Answers _ r.value.2 := Setup.answers_run p.name (hook cfg p.name s) d.table
      simp only [Act.run_bind, hvalue]
      cases r.value.1.result with
      | ok u => exact hrun
      | error cause => exact hrun

theorem answers_registerFor (h : d.Sound) (plugin : String) (request : Request (Callback σ ν))
    (s : σ) :
    d.table.Answers [⟨plugin, request, (d.registerFor plugin request s).value.1⟩]
      (d.registerFor plugin request s).value.2.table := by
  unfold registerFor
  cases hp : d.registry.get? plugin with
  | none => exact .refused plugin request _ (.nil _)
  | some p =>
    obtain rfl := ((h.registry.get?_eq_some_iff plugin p).1 hp).2
    cases hi : d.table.insert p.name request with
    | error e =>
      simp only [hi]
      exact .refused p.name request e (.nil _)
    | ok grown =>
      simp only [hi]
      exact .granted hi (.nil _)

/-- A move that forgets nothing leads from table to table by what it registers. -/
theorem answers_move (h : d.Sound) (hm : m.forgets = false) (s : σ) :
    d.table.Answers (d.registrations m s) (d.move m s).value.table := by
  cases m with
  | register cfg p => exact d.answers_register cfg p s
  | registerFor plugin request => exact answers_registerFor h plugin request s
  | teardown => cases hm
  | stop cfg => cases hm
  | _ => exact .nil d.table

/-- A move that forgets registers nothing and clears the table. -/
theorem table_move_of_forgets (hm : m.forgets = true) (s : σ) :
    d.registrations m s = [] ∧ (d.move m s).value.table = d.table.clear := by
  cases m with
  | teardown => exact ⟨rfl, rfl⟩
  | stop cfg => exact ⟨rfl, rfl⟩
  | _ => cases hm

theorem nextId_le_move (h : d.Sound) (m : Move σ ν) (s : σ) :
    d.table.nextId ≤ (d.move m s).value.table.nextId := by
  cases hm : m.forgets with
  | false => exact (answers_move h hm s).nextId_le h.table.toConsistent
  | true =>
    rw [(table_move_of_forgets hm s).2]
    exact Nat.le_refl _

theorem get?_move (h : d.Sound) (m : Move σ ν) (s : σ) (hid : id < d.table.nextId) :
    (d.move m s).value.table.get? id = if m.forgets then none else d.table.get? id := by
  cases hm : m.forgets with
  | false => exact (answers_move h hm s).get?_old h.table.toConsistent hid
  | true =>
    rw [(table_move_of_forgets hm s).2]
    rfl

theorem get?_of_granted (h : d.Sound) {g : Registration (Callback σ ν)}
    (hg : g ∈ d.registrations m s) (ha : g.answer = .ok id) :
    (d.move m s).value.table.get? id = some (g.dependency id) := by
  cases hm : m.forgets with
  | false => exact (answers_move h hm s).get?_new h.table.toConsistent hg ha
  | true =>
    rw [(table_move_of_forgets hm s).1] at hg
    cases hg

/-! ## Runs -/

/-- What is registered, or refused, in moves one after another. -/
def ledger (d : Dispatcher σ ν) : List (Move σ ν) → σ → List (Registration (Callback σ ν))
  | [], _ => []
  | m :: moves, s =>
    d.registrations m s ++ (d.move m s).value.ledger moves (d.move m s).state

/-- The ids that a move grants go up, from the count before to the count after. -/
theorem ids_registrations (h : d.Sound) (m : Move σ ν) (s : σ) :
    ((d.registrations m s).filterMap Registration.id?).Pairwise (· < ·) ∧
      ∀ id ∈ (d.registrations m s).filterMap Registration.id?,
        d.table.nextId ≤ id ∧ id < (d.move m s).value.table.nextId := by
  cases hm : m.forgets with
  | false => exact (answers_move h hm s).ids h.table.toConsistent
  | true =>
    rw [(table_move_of_forgets hm s).1]
    exact ⟨.nil, by simp⟩

/-- The ids that moves grant go up, also where all was forgotten in between. -/
theorem ids_ledger (h : d.Sound) (moves : List (Move σ ν)) (s : σ) :
    ((d.ledger moves s).filterMap Registration.id?).Pairwise (· < ·) ∧
      ∀ id ∈ (d.ledger moves s).filterMap Registration.id?, d.table.nextId ≤ id := by
  induction moves generalizing d s with
  | nil => exact ⟨.nil, by simp [ledger]⟩
  | cons m moves ih =>
    obtain ⟨hup, hbound⟩ := ids_registrations h m s
    obtain ⟨hup', hbound'⟩ := ih (h.move m s) (d.move m s).state
    have hle := nextId_le_move h m s
    rw [ledger, List.filterMap_append, List.pairwise_append]
    refine ⟨⟨hup, hup', fun a ha b hb => ?_⟩, fun id hid => ?_⟩
    · exact Nat.lt_of_lt_of_le (hbound a ha).2 (hbound' b hb)
    · rcases List.mem_append.1 hid with hid | hid
      · exact (hbound id hid).1
      · exact Nat.le_trans hle (hbound' id hid)

/-- What is found under an id that is used stays, until all is forgotten. -/
theorem get?_play (h : d.Sound) (moves : List (Move σ ν)) (s : σ) (hid : id < d.table.nextId) :
    (d.play moves s).value.table.get? id =
      if moves.any Move.forgets then none else d.table.get? id := by
  induction moves generalizing d s with
  | nil => rfl
  | cons m moves ih =>
    have hlater := ih (h.move m s) (d.move m s).state
      (Nat.lt_of_lt_of_le hid (nextId_le_move h m s))
    rw [get?_move h m s hid] at hlater
    rw [List.any_cons]
    refine hlater.trans ?_
    cases m.forgets <;> simp

/-! ## Top theorem -/

/-- **No id is used again.**  Any commands to a new dispatcher come to moves in which the ids that are
granted, by init hooks and to the host, go up.  From the move that grants an id on, it stands for the
dependency that was asked for, until all is forgotten, and for none after that. -/
theorem ids_never_reused (commands : List (Command σ ν)) (s : σ) :
    ∃ d moves, List.Forall₂ Command.Spells commands moves ∧
      Plays (empty.obey commands) s d empty moves.flatten d ∧
      (((empty : Dispatcher σ ν).ledger moves.flatten s).filterMap Registration.id?).Pairwise
        (· < ·) ∧
      ∀ past m now later, moves.flatten = past ++ m :: now ++ later →
        let x := empty.play past s
        ∀ g ∈ x.value.registrations m x.state, ∀ id, g.answer = .ok id →
          (empty.play (past ++ m :: now) s).value.table.get? id =
            if now.any Move.forgets then none else some (g.dependency id) := by
  obtain ⟨d, moves, hc, h⟩ := plays_obey empty commands s
  refine ⟨d, moves, hc, h, (ids_ledger sound_empty moves.flatten s).1, ?_⟩
  intro past m now later _ x g hg id ha
  have hx : x.value.Sound := sound_empty.play past s
  have hid : id < (x.value.move m x.state).value.table.nextId := by
    have hm : id ∈ (x.value.registrations m x.state).filterMap Registration.id? :=
      List.mem_filterMap.2 ⟨g, hg, by rw [Registration.id?, ha]; rfl⟩
    exact ((ids_registrations hx m x.state).2 id hm).2
  have hnow := get?_play (hx.move m x.state) now (x.value.move m x.state).state hid
  rw [get?_of_granted hx hg ha] at hnow
  rw [play_append]
  exact hnow

end Dispatcher

end PluginHost
