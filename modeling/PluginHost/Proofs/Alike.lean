import PluginHost.Loader
import PluginHost.Proofs.Dependency.Alike

/-!
# Plugins that fail alike

Two plugins are alike if they have the same hooks, with the same effects, which go well or fail at
the same calls.  A `Leeway` says how the failures, and the paths of the plugins, may differ.  Hooks
that are alike register like callbacks, and are found alike in registries that are alike.

    courses of init hooks that are alike come out alike against tables that are     (Setup.Alike.run)
    like plugins are registered, found and filtered alike                     (Registry.Alike.insert)
-/

namespace PluginHost

variable {σ ν : Type}

/-- How two runs may differ: in the paths of plugins of a name, in the failures of their hooks, in
the failures of callbacks.  The hooks are compared for some start arguments only. -/
structure Leeway where
  path : String → Option Path → Option Path → Prop
  hook : String → HookKind → HookError → HookError → Prop
  callback : HookError → HookError → Prop
  args : List String → Prop

/-! ## Errors -/

/-- The same error, but for the failure of a hook. -/
inductive PluginError.Alike (L : Leeway) : PluginError → PluginError → Prop where
  | load (plugin : String) (path : Path) (cause : LoadFault) :
      Alike L (.load plugin path cause) (.load plugin path cause)
  | duplicate (name : String) : Alike L (.duplicate name) (.duplicate name)
  | directory (path : Path) (cause : IoError) : Alike L (.directory path cause) (.directory path cause)
  | hook {plugin : String} {kind : HookKind} {cause cause' : HookError} :
      L.hook plugin kind cause cause' → Alike L (.hook plugin kind cause) (.hook plugin kind cause')

/-- The same error, but for the failure of a hook or callback. -/
inductive TransactionError.Alike (L : Leeway) : TransactionError → TransactionError → Prop where
  | phaseVeto {ph : Phase} {plugin : String} {cause cause' : HookError} :
      L.hook plugin (.phase ph) cause cause' →
      Alike L (.phaseVeto ph plugin cause) (.phaseVeto ph plugin cause')
  | callback {plugin : String} {kind : Dependency.Kind} {key : String} {op : Op}
      {cause cause' : HookError} : L.callback cause cause' →
      Alike L (.callback plugin kind key op cause) (.callback plugin kind key op cause')
  | invalidState (ph : Phase) (state : Transaction.State) :
      Alike L (.invalidState ph state) (.invalidState ph state)

/-! ## Plugins -/

def Callback.Alike (L : Leeway) (c c' : Callback σ ν) : Prop :=
  ∀ cfg op view, ComesOut L.callback (c cfg op view) (c' cfg op view)

/-- Hooks that come out alike, whatever they are given of some kind. -/
def Hook.Alike {ι : Type} (E : HookError → HookError → Prop) (given : ι → Prop)
    (h h' : Hook σ ν ι Outcome) : Prop :=
  ∀ cfg i, given i → ComesOut E (h cfg i) (h' cfg i)

/-- Courses of init hooks that ask for the same, with other callbacks, and come out alike. -/
inductive Setup.Alike (E : HookError → HookError → Prop) (R : Callback σ ν → Callback σ ν → Prop) :
    Setup σ ν Outcome → Setup σ ν Outcome → Prop where
  | finish {notes notes' : List (Note ν)} {s : σ} {o o' : Outcome} :
      Likewise E Eq o.result o'.result → Alike E R (.finish notes s o) (.finish notes' s o')
  | register {notes notes' : List (Note ν)} {q q' : Request (Callback σ ν)}
      {resume resume' : Except RegistrationError Nat → Setup σ ν Outcome} :
      Request.Alike R q q' → (∀ answer, Alike E R (resume answer) (resume' answer)) →
      Alike E R (.register notes q resume) (.register notes' q' resume')

/-- Init hooks whose courses are alike. -/
def InitHook.Alike (E : HookError → HookError → Prop) (R : Callback σ ν → Callback σ ν → Prop)
    (h h' : InitHook σ ν Outcome) : Prop :=
  ∀ cfg registrar s, Setup.Alike E R (h cfg registrar s) (h' cfg registrar s)

/-- Plugins of one name with the same hooks, which are alike. -/
structure Plugin.Alike (L : Leeway) (p p' : Plugin σ ν) : Prop where
  name : p.name = p'.name
  path : L.path p.name p.path p'.path
  init : Option.Rel (InitHook.Alike (L.hook p.name .init) (Callback.Alike L)) p.init p'.init
  start : Option.Rel (Hook.Alike (L.hook p.name .start) L.args) p.start p'.start
  exit : Option.Rel (Hook.Alike (L.hook p.name .exit) fun _ => True) p.exit p'.exit
  reset : Option.Rel (Hook.Alike (L.hook p.name .reset) fun _ => True) p.reset p'.reset
  phase : ∀ ph, Option.Rel (Hook.Alike (L.hook p.name (.phase ph)) fun _ => True) (p.phase ph)
    (p'.phase ph)

/-- On either disk, opening a file comes to the same, but for the libraries, which make plugins that
are alike. -/
def Disk.LoadsAlike (L : Leeway) (disk disk' : Disk σ ν) (path : Path) : Prop :=
  ∀ s, Likewise Eq
    (fun lib lib' =>
      let name := (Loader.pluginName? path).getD path.display
      Plugin.Alike L (Plugin.ofLibrary name path lib) (Plugin.ofLibrary name path lib'))
    (disk.load s path) (disk'.load s path)

/-- Disks with the same directories, on which all files are opened alike. -/
structure Disk.Alike (L : Leeway) (disk disk' : Disk σ ν) : Prop where
  list : disk.list = disk'.list
  load : ∀ path, Disk.LoadsAlike L disk disk' path

variable {L : Leeway}

theorem isSome_eq_of_rel {α β : Type} {A : α → β → Prop} {a : Option α} {b : Option β}
    (h : Option.Rel A a b) : a.isSome = b.isSome := by
  cases h <;> rfl

theorem Plugin.Alike.has {p p' : Plugin σ ν} (h : Alike L p p') (k : HookKind) :
    p.has k = p'.has k := by
  cases k with
  | init => exact isSome_eq_of_rel h.init
  | start => exact isSome_eq_of_rel h.start
  | exit => exact isSome_eq_of_rel h.exit
  | reset => exact isSome_eq_of_rel h.reset
  | phase ph => exact isSome_eq_of_rel (h.phase ph)

theorem Plugin.Alike.hooks {p p' : Plugin σ ν} (h : Alike L p p') : p.hooks = p'.hooks := by
  unfold Plugin.hooks
  congr 1
  funext k
  exact h.has k

/-- Against tables that are alike, courses that are alike leave the same state, like tables and like
results. -/
theorem Setup.Alike.run {E : HookError → HookError → Prop}
    {R : Callback σ ν → Callback σ ν → Prop} {x x' : Setup σ ν Outcome}
    {t t' : Table (Callback σ ν)} (h : Alike E R x x') (ht : Table.Alike R t t')
    (plugin : String) :
    (x.run plugin t).state = (x'.run plugin t').state ∧
      Likewise E Eq (x.run plugin t).value.1.result (x'.run plugin t').value.1.result ∧
      Table.Alike R (x.run plugin t).value.2 (x'.run plugin t').value.2 := by
  -- along the course; tables that are alike give the same answers, with the same ids
  induction h generalizing t t' with
  | finish ho => exact ⟨rfl, ho, ht⟩
  | @register notes notes' q q' resume resume' hq _ ih =>
    have hi := ht.insert plugin hq
    simp only [Setup.run]
    generalize t.insert plugin q = inserted at hi ⊢
    generalize t'.insert plugin q' = inserted' at hi ⊢
    cases hi with
    | error he =>
      subst he
      exact ih _ ht
    | @ok grown grown' hg =>
      obtain ⟨d, t⟩ := grown
      obtain ⟨d', t'⟩ := grown'
      obtain ⟨hd, ht⟩ := hg
      have hid : d.id = d'.id := by cases hd; rfl
      simp only [hid]
      exact ih _ ht

/-! ## Plugins are like themselves -/

theorem ComesOut.refl {E : HookError → HookError → Prop} (hE : ∀ e, E e e)
    (m : Act σ (Note ν) Outcome) : ComesOut E m m := fun _ => ⟨rfl, Likewise.refl hE (fun _ => rfl) _⟩

/-- An act comes out as the act without its log. -/
theorem ComesOut.quiet {E : HookError → HookError → Prop} (hE : ∀ e, E e e)
    (m : Act σ (Note ν) Outcome) : ComesOut E m m.quiet := .refl hE m

theorem Setup.Alike.refl {E : HookError → HookError → Prop}
    {R : Callback σ ν → Callback σ ν → Prop} (hE : ∀ e, E e e) (hR : ∀ c, R c c)
    (x : Setup σ ν Outcome) : Setup.Alike E R x x := by
  induction x with
  | finish notes s o => exact .finish (Likewise.refl hE (fun _ => rfl) _)
  | register notes q resume ih => exact .register (.intro (hR q.callback)) ih

/-- A plugin is like itself if its failures may be what they are. -/
theorem Plugin.Alike.refl {p : Plugin σ ν} (hpath : L.path p.name p.path p.path)
    (hhook : ∀ k e, L.hook p.name k e e) (hcallback : ∀ e, L.callback e e) : Plugin.Alike L p p := by
  have hrel : ∀ {α : Type} {A : α → α → Prop}, (∀ a, A a a) → ∀ o, Option.Rel A o o := by
    intro α A hA o
    cases o with
    | none => exact .none
    | some a => exact .some (hA a)
  refine ⟨rfl, hpath, hrel (fun h cfg registrar s => ?_) _, hrel (fun h cfg i _ => ?_) _,
    hrel (fun h cfg i _ => ?_) _, hrel (fun h cfg i _ => ?_) _,
    fun ph => hrel (fun h cfg i _ => ?_) _⟩
  · exact .refl (hhook .init) (fun c cfg op view => .refl hcallback _) _
  all_goals exact .refl (hhook _) _

/-! ## Registries -/

/-- Registries of plugins that are alike, in the same order. -/
structure Registry.Alike (L : Leeway) (r r' : Registry σ ν) : Prop where
  plugins : List.Forall₂ (Plugin.Alike L) r.plugins r'.plugins
  index : r.index = r'.index

namespace Registry.Alike

variable {r r' : Registry σ ν} {p p' : Plugin σ ν}

theorem empty : Alike L (Registry.empty : Registry σ ν) .empty := ⟨.nil, rfl⟩

theorem position? (h : Alike L r r') (name : String) : r.position? name = r'.position? name := by
  rw [Registry.position?, Registry.position?, h.index]

theorem contains (h : Alike L r r') (name : String) : r.contains name = r'.contains name := by
  rw [Registry.contains, Registry.contains, h.position?]

theorem size (h : Alike L r r') : r.size = r'.size := h.plugins.length_eq

theorem get? (h : Alike L r r') (name : String) :
    Option.Rel (Plugin.Alike L) (r.get? name) (r'.get? name) := by
  unfold Registry.get?
  rw [h.position?]
  cases r'.position? name with
  | none => exact .none
  | some pos =>
    show Option.Rel _ r.plugins[pos]? r'.plugins[pos]?
    by_cases hlt : pos < r.plugins.length
    · have hlt' : pos < r'.plugins.length := h.plugins.length_eq ▸ hlt
      rw [List.getElem?_eq_getElem hlt, List.getElem?_eq_getElem hlt']
      exact .some (h.plugins.get hlt hlt')
    · rw [List.getElem?_eq_none (by omega),
        List.getElem?_eq_none (by have := h.plugins.length_eq; omega)]
      exact .none

theorem withHook (h : Alike L r r') (k : HookKind) :
    List.Forall₂ (Plugin.Alike L) (r.withHook k) (r'.withHook k) :=
  List.rel_filter (fun _ _ hp => Bool.eq_iff_iff.1 (hp.has k)) h.plugins

/-- A name that is taken in one registry is taken in the other. -/
theorem insert (h : Alike L r r') (hp : Plugin.Alike L p p') :
    Likewise (PluginError.Alike L) (Alike L) (r.insert p) (r'.insert p') := by
  unfold Registry.insert
  rw [← hp.name, ← h.contains]
  by_cases hc : r.contains p.name = true
  · rw [if_pos hc, if_pos hc]
    exact .error (.duplicate _)
  · rw [if_neg hc, if_neg hc]
    refine .ok ⟨List.rel_append h.plugins (.cons hp .nil), ?_⟩
    rw [h.index, h.plugins.length_eq]

end Registry.Alike

end PluginHost
