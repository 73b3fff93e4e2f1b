import PluginHost.Proofs.Backend.Conversation

/-!
# When a backend is set up

A backend is set up once all configured plugins are loaded, and stays so until it is shut down.  A
set-up that fails to load leaves it as it was.  One that loads all and then fails to reset is
another matter: it comes back with an error, and the backend is set up all the same.

    set up at the end of a conversation ↔ all was loaded, and not shut down since     (isSetUp_iff)
    not set up → start, commit and validate are refused                         (bars_of_not_setUp)
    a set-up fails → set up just if a reset hook failed; if not, start, commit and validate are
    refused until all is loaded                                               (barred_until_loaded)
-/

namespace PluginHost

variable {σ ν : Type}

/-- An error of loading: loading failed, or was not tried again. -/
def HostError.isOfLoading : HostError → Bool
  | .component .setUp _ _ => true
  | .refused .alreadySetUp => true
  | _ => false

namespace Backend

def Command.setsUp : Command σ ν → Bool
  | .setUp _ => true
  | .run _ _ => true
  | _ => false

def Command.shutsDown : Command σ ν → Bool
  | .shutdown => true
  | _ => false

/-- Whether all plugins were loaded: the backend was told to, and no error of loading came back. -/
def Exchange.loads (x : Exchange σ ν) : Bool :=
  x.command.setsUp && x.error?.all fun e => !e.isOfLoading

/-- What needs the backend to be set up is refused, calls nothing and changes nothing. -/
structure Bars (b : Backend σ ν) (s : σ) : Prop where
  start : ∀ args, b.start args s = ⟨(.error (.refused .notReadyToStart), b), s, []⟩
  commit : ∀ changes, b.commit changes s = ⟨(.error (.refused .notSetUp), b), s, []⟩
  validate : ∀ changes, b.validate changes s = ⟨(.error (.refused .notSetUp), b), s, []⟩

variable {b : Backend σ ν} {m : Manager σ ν} {disk : Disk σ ν} {s : σ} {e : PluginError}

/-! ## What setting up comes to -/

theorem setUp_of_isSetUp (h : b.isSetUp = true) (disk : Disk σ ν) (s : σ) :
    b.setUp disk s = ⟨(.error (.refused .alreadySetUp), b), s, []⟩ := by
  simp only [setUp, if_pos h]
  rfl

theorem value_setUp_of_error (h : b.isSetUp = false)
    (hm : (b.manager.setUp disk b.config s).value = (.error e, m)) :
    (b.setUp disk s).value = (.error (managerError .setUp e), b.within m) := by
  simp only [setUp, h, Bool.false_eq_true, if_false, Act.run_bind, Act.log, Act.emit, hm]
  rfl

/-- Once all is loaded, the backend is set up, whatever comes of the reset hooks. -/
theorem value_setUp_of_ok (h : b.isSetUp = false)
    (hm : (b.manager.setUp disk b.config s).value = (.ok (), m)) :
    let up := (b.within m).flagged true b.isStarted
    (b.setUp disk s).value
      = (if b.config.resetOnStart then (up.reset (b.manager.setUp disk b.config s).state).value
          else .ok (), up) := by
  intro up
  have hconfig : ((b.within m).flagged true (b.within m).isStarted).config = b.config := rfl
  have hup : (b.within m).flagged true (b.within m).isStarted = up := rfl
  simp only [setUp, h, Bool.false_eq_true, if_false, Act.run_bind, Act.log, Act.emit, hm, hconfig]
  cases b.config.resetOnStart with
  | false => rfl
  | true =>
    simp only [if_true, Act.run_bind, hup]
    cases (up.reset (b.manager.setUp disk b.config s).state).value <;> rfl

theorem value_reset (b : Backend σ ν) (s : σ) : (b.reset s).value
    = (b.manager.dispatcher.reset b.config s).value.mapError (managerError .reset) := rfl

theorem error_reset {e : HostError} (h : (b.reset s).value = .error e) :
    ∃ cause, (b.manager.dispatcher.reset b.config s).value = .error cause ∧
      e = managerError .reset cause := by
  rw [value_reset] at h
  cases hr : (b.manager.dispatcher.reset b.config s).value with
  | error cause =>
    rw [hr] at h
    exact ⟨cause, rfl, (Except.error.inj h).symm⟩
  | ok u =>
    rw [hr] at h
    cases h

/-! ## What starting comes to -/

/-- A backend may be started: it is set up, and was not started since. -/
def Ready (b : Backend σ ν) : Prop := b.isSetUp = true ∧ b.isStarted = false

theorem start_of_not_ready (h : ¬ b.Ready) (args : List String) (s : σ) :
    b.start args s = ⟨(.error (.refused .notReadyToStart), b), s, []⟩ := by
  have hc : (!b.isSetUp || b.isStarted) = true := by
    cases hup : b.isSetUp with
    | false => rfl
    | true => simpa [Ready, hup] using h
  simp only [start, if_pos hc]
  rfl

/-- A backend that is ready calls the start hooks, and is started if all go well. -/
theorem value_start_of_ready (h : b.Ready) (args : List String) (s : σ) :
    let ready := b.within (b.manager.setStartArgs args)
    (b.start args s).value = match (b.manager.dispatcher.start b.config args s).value with
      | .error e => (.error (managerError .start e), ready)
      | .ok () => (.ok (), ready.flagged true true) := by
  intro ready
  have hc : (!b.isSetUp || b.isStarted) = false := by simp [h.1, h.2]
  have hr : (ready.manager.start ready.config s).value
      = (b.manager.dispatcher.start b.config args s).value := rfl
  have hready : b.within (b.manager.setStartArgs args) = ready := rfl
  have hup : ready.isSetUp = true := h.1
  simp only [start, hc, Bool.false_eq_true, if_false, Act.run_bind, Act.log, Act.emit, hready, hr,
    hup]
  cases (b.manager.dispatcher.start b.config args s).value <;> rfl

theorem value_run (b : Backend σ ν) (disk : Disk σ ν) (args : List String) (s : σ) :
    (b.run disk args s).value = match (b.setUp disk s).value with
      | (.error e, b') => (.error e, b')
      | (.ok (), b') => (b'.start args (b.setUp disk s).state).value := by
  simp only [run, Act.run_bind]
  obtain ⟨r, b'⟩ := (b.setUp disk s).value
  cases r <;> rfl

/-! ## Set up or not -/

/-- A result that is no error of loading. -/
def isLoaded {α : Type} (r : Except HostError α) : Bool :=
  (errorOf? id r).all fun e => !e.isOfLoading

theorem isLoaded_reset (b : Backend σ ν) (s : σ) : isLoaded (b.reset s).value = true := by
  rw [value_reset]
  cases (b.manager.dispatcher.reset b.config s).value <;> rfl

theorem isSetUp_setUp_iff (b : Backend σ ν) (disk : Disk σ ν) (s : σ) :
    (b.setUp disk s).value.2.isSetUp = true ↔
      isLoaded (b.setUp disk s).value.1 = true ∨ b.isSetUp = true := by
  cases h : b.isSetUp with
  | true =>
    rw [setUp_of_isSetUp h]
    simp [h]
  | false =>
    rcases hm : (b.manager.setUp disk b.config s).value with ⟨r, m⟩
    cases r with
    | error e =>
      rw [value_setUp_of_error h hm]
      simp [isLoaded, errorOf?, managerError, HostError.isOfLoading, within, h]
    | ok u =>
      rw [value_setUp_of_ok h hm]
      refine iff_of_true rfl (.inl ?_)
      cases b.config.resetOnStart with
      | false => rfl
      | true => exact isLoaded_reset _ _

theorem start_keeps (b : Backend σ ν) (args : List String) (s : σ) :
    isLoaded (b.start args s).value.1 = true ∧
      (b.start args s).value.2.isSetUp = b.isSetUp := by
  by_cases h : b.Ready
  · rw [value_start_of_ready h]
    cases (b.manager.dispatcher.start b.config args s).value with
    | error e => exact ⟨rfl, rfl⟩
    | ok u => exact ⟨rfl, h.1.symm⟩
  · rw [start_of_not_ready h]
    exact ⟨rfl, rfl⟩

theorem isSetUp_run_iff (b : Backend σ ν) (disk : Disk σ ν) (args : List String) (s : σ) :
    (b.run disk args s).value.2.isSetUp = true ↔
      isLoaded (b.run disk args s).value.1 = true ∨ b.isSetUp = true := by
  rcases hv : (b.setUp disk s).value with ⟨r, b'⟩
  have hsetUp := b.isSetUp_setUp_iff disk s
  rw [hv] at hsetUp
  rw [value_run, hv]
  cases r with
  | error e => exact hsetUp
  | ok u =>
    obtain ⟨hloaded, hkeeps⟩ := b'.start_keeps args (b.setUp disk s).state
    simp only [hloaded, hkeeps, true_or, iff_true]
    exact hsetUp.2 (.inl rfl)

theorem isSetUp_commit (b : Backend σ ν) (changes : ChangeSet) (s : σ) :
    (b.commit changes s).value.2.isSetUp = b.isSetUp := by
  unfold commit
  split <;> rfl

theorem isSetUp_validate (b : Backend σ ν) (changes : ChangeSet) (s : σ) :
    (b.validate changes s).value.2.isSetUp = b.isSetUp := by
  unfold validate
  split <;> rfl

/-- Other commands leave it at that. -/
theorem isSetUp_tell_of_other {c : Command σ ν} (hup : c.setsUp = false)
    (hdown : c.shutsDown = false) (b : Backend σ ν) (s : σ) :
    (b.tell c s).value.2.isSetUp = b.isSetUp := by
  cases c with
  | setUp disk => cases hup
  | run disk args => cases hup
  | shutdown => cases hdown
  | start args => exact (b.start_keeps args s).2
  | commit changes => exact b.isSetUp_commit changes s
  | validate changes => exact b.isSetUp_validate changes s
  | register p => rfl
  | reset => rfl
  | manager c => rfl

/-- A command sets the backend up just if it loads all plugins; only a shutdown undoes that. -/
theorem isSetUp_tell_iff (b : Backend σ ν) (c : Command σ ν) (s : σ) :
    let x : Exchange σ ν := ⟨c, (b.tell c s).value.1⟩
    (b.tell c s).value.2.isSetUp = true ↔
      x.loads = true ∨ b.isSetUp = true ∧ ¬ x.command.shutsDown = true := by
  intro x
  cases c with
  | setUp disk =>
    simp only [x, Command.shutsDown, Bool.false_eq_true, not_false_eq_true, and_true]
    exact b.isSetUp_setUp_iff disk s
  | run disk args =>
    simp only [x, Command.shutsDown, Bool.false_eq_true, not_false_eq_true, and_true]
    exact b.isSetUp_run_iff disk args s
  | shutdown =>
    refine iff_of_false nofun ?_
    simp [x, Exchange.loads, Command.setsUp, Command.shutsDown]
  | _ =>
    rw [isSetUp_tell_of_other rfl rfl]
    simp [x, Exchange.loads, Command.setsUp, Command.shutsDown]

/-- The backend is set up after a conversation just if all was loaded and it was not shut down
since. -/
theorem isSetUp_iff (b : Backend σ ν) (commands : List (Command σ ν)) (s : σ) :
    let talk := b.converse commands s
    talk.value.2.isSetUp = true ↔
      Since (fun x => x.loads = true) (fun x => x.command.shutsDown = true) talk.value.1 ∨
      b.isSetUp = true ∧ ∀ x ∈ talk.value.1, ¬ x.command.shutsDown = true :=
  iff_since_converse (P := fun b => b.isSetUp = true) isSetUp_tell_iff b commands s

theorem bars_of_not_setUp (h : b.isSetUp = false) (s : σ) : Bars b s where
  start args := start_of_not_ready (by simp [Ready, h]) args s
  commit changes := by
    simp only [commit, h, Bool.false_eq_true, if_false]
    rfl
  validate changes := by
    simp only [validate, h, Bool.false_eq_true, if_false]
    rfl

/-! ## Failed set-ups -/

/-- A set-up that comes back with an error sets the backend up just if it is the error of a reset
hook. -/
theorem isSetUp_iff_of_setUp_error (h : b.isSetUp = false) {e : HostError}
    (he : (b.setUp disk s).value.1 = .error e) :
    (b.setUp disk s).value.2.isSetUp = true ↔ ∃ cause, e = managerError .reset cause := by
  rcases hm : (b.manager.setUp disk b.config s).value with ⟨r, m⟩
  cases r with
  | error cause =>
    rw [value_setUp_of_error h hm] at he ⊢
    obtain rfl := Except.error.inj he
    simp [within, h, managerError]
  | ok u =>
    rw [value_setUp_of_ok h hm] at he ⊢
    refine iff_of_true rfl ?_
    cases hr : b.config.resetOnStart with
    | false =>
      simp only [hr] at he
      cases he
    | true =>
      simp only [hr, if_true] at he
      obtain ⟨cause, -, rfl⟩ := error_reset he
      exact ⟨cause, rfl⟩

/-- A set-up that fails, but by no reset hook, leaves the backend down: until a later set-up loads
all plugins, it cannot be started, and commits and validates nothing. -/
theorem barred_until_loaded (h : b.isSetUp = false) {e : HostError}
    (he : (b.setUp disk s).value.1 = .error e) :
    let failed := b.setUp disk s
    (failed.value.2.isSetUp = true ↔ ∃ cause, e = managerError .reset cause) ∧
    ((∀ cause, e ≠ managerError .reset cause) → ∀ commands,
      let talk := failed.value.2.converse commands failed.state
      (talk.value.2.isSetUp = true ↔
        Since (fun x => x.loads = true) (fun x => x.command.shutsDown = true) talk.value.1) ∧
      (talk.value.2.isSetUp = false → Bars talk.value.2 talk.state)) := by
  intro failed
  have hfailed := isSetUp_iff_of_setUp_error h he
  refine ⟨hfailed, fun hne commands => ?_⟩
  have hdown : ¬ failed.value.2.isSetUp = true := fun hup =>
    (hfailed.1 hup).elim hne
  refine ⟨(isSetUp_iff _ _ _).trans ?_, fun hup => bars_of_not_setUp hup _⟩
  simp only [hdown, Bool.false_eq_true, false_and, or_false]

/-! ## A missing directory, and a stuck plugin -/

/-- A disk on which no directory can be read. -/
def unreadable : Disk Unit Unit := ⟨fun _ _ => .error .notFound, fun _ _ => .error (.library "")⟩

/-- A disk on which all directories are empty. -/
def bare : Disk Unit Unit := ⟨fun _ _ => .ok [], fun _ _ => .error (.library "")⟩

/-- A plugin whose reset hook fails. -/
def stuck : Plugin Unit Unit :=
  ⟨"stuck", none, none, none, none, some fun _ _ => pure (.failed (.message "no")), fun _ => none⟩

/-- A new backend, which calls the reset hooks when it is set up. -/
def eager : Backend Unit Unit :=
  let cfg : Config := { Config.standard with resetOnStart := true }
  ⟨cfg, false, false, .ofConfig cfg, 1⟩

/-- Without its directory the backend stays down, and start is refused; once the directory is there,
it is set up. -/
theorem barred_until_loaded_unreadable :
    let failed := eager.setUp unreadable ()
    failed.value.2.isSetUp = false ∧ Bars failed.value.2 failed.state ∧
    (failed.value.2.converse [.start [], .setUp bare] failed.state).value.2.isSetUp = true := by
  have he : (eager.setUp unreadable ()).value.1
      = .error (managerError .setUp (.directory Config.standard.backendDir .notFound)) := rfl
  obtain ⟨hup, hlater⟩ := barred_until_loaded (b := eager) rfl he
  have hne : ∀ cause, managerError .setUp (.directory Config.standard.backendDir .notFound)
      ≠ managerError .reset cause := by simp [managerError]
  have hdown : (eager.setUp unreadable ()).value.2.isSetUp = false :=
    Bool.eq_false_iff.2 fun h => (hup.1 h).elim hne
  refine ⟨hdown, (hlater hne []).2 hdown, (hlater hne [.start [], .setUp bare]).1.2 ?_⟩
  exact ⟨[_], _, [], rfl, by decide +kernel, by simp⟩

/-- A set-up that fails to reset comes back with an error, and yet the backend is set up and can be
started. -/
theorem started_after_failed_reset :
    let new := (eager.register stuck ()).value.2
    let failed := new.setUp bare ()
    new.isSetUp = false ∧
    (errorOf? id failed.value.1).map HostError.message = some (HostError.stageMessage .reset
      ("Component 'DefaultPluginManager' failed: Plugin system error: "
        ++ "Plugin 'stuck' failed in plugin_reset: no")) ∧
    failed.value.2.isSetUp = true ∧
    (failed.value.2.start [] failed.state).value.1.isOk = true :=
  ⟨rfl, by decide +kernel, by decide +kernel, by decide +kernel⟩

end Backend

end PluginHost
