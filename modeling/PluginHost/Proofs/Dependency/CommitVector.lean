import PluginHost.Proofs.Dependency.Wanted

/-!
# The commit vector is what all dependencies want, in order

The one pass over the changes, through the index and the slots, collects the calls that each
dependency of the asked flavor wants, each once; sorting then leaves no choice, for no two calls
agree in priority, id and first position.

    i ∈ t.commitVector changes validate →
      i.dependency ∈ t.entries ∧ i.dependency.kind.validate = validate          (mem_commitVector)
    e ∈ t.hits key ↔ entry e is on key or on an ancestor of it                  (mem_hits)
    (t.draft validate changes).callsOf d.id = d.wanted changes                  (accounts_draft)
    (t.commitVector changes validate).Perm (t.wanted changes validate)          (commitVector_perm)
    (t.commitVector changes validate).Pairwise Invocation.Before                (pairwise_commitVector)
    t.commitVector changes validate = calls ↔
      calls.Perm (t.wanted changes validate) ∧ calls.Pairwise Invocation.Before
                                                                          (build_commitVector_eq_iff)
-/

namespace PluginHost

namespace Table

variable {γ : Type} {t : Table γ} {validate : Bool}

/-- The calls that are collected for changes, before they are sorted. -/
def draft (t : Table γ) (validate : Bool) (changes : List (Change × Nat)) : Draft γ :=
  changes.foldl (t.addChange validate) .empty

/-! ## Whose calls these are

This holds of every table, whether or not its index is right. -/

theorem owned_addEntry {x : Draft γ} (h : x.Owned t validate) (c : Change) (pos : Nat)
    (root : String) (e : Nat) : (t.addEntry validate c pos root x e).Owned t validate := by
  unfold addEntry
  split
  · exact h
  · next d hd =>
    have hm := List.mem_of_getElem? hd
    by_cases hv : d.kind.validate = validate
    · rw [if_neg (by simpa using hv)]
      split
      · exact h.cover hm hv e c.op pos
      · split
        · exact h.push hm hv
        · exact h
    · rw [if_pos hv]; exact h

theorem owned_draft (t : Table γ) (validate : Bool) (changes : List (Change × Nat)) :
    (t.draft validate changes).Owned t validate := by
  refine List.foldlRecOn changes _ Draft.owned_empty fun x hx c _ => ?_
  refine List.foldlRecOn (Key.ancestors c.1.key) _ hx fun x hx root _ => ?_
  exact List.foldlRecOn (t.index.positions root) _ hx fun x hx e _ =>
    owned_addEntry hx c.1 c.2 root e

theorem mem_commitVector {changes : List Change} {i : Invocation γ}
    (h : i ∈ t.commitVector changes validate) :
    i.dependency ∈ t.entries ∧ i.dependency.kind.validate = validate :=
  owned_draft t validate changes.zipIdx _
    (List.mem_map_of_mem ((List.mergeSort_perm _ _).mem_iff.1 h))

/-! ## Entries visited for one change -/

/-- The entries that a change to a key visits, in order. -/
def hits (t : Table γ) (key : String) : List Nat :=
  (Key.ancestors key).flatMap t.index.positions

theorem mem_hits (ht : t.Consistent) (key : String) (e : Nat) :
    e ∈ t.hits key ↔ ∃ d, t.entries[e]? = some d ∧ Key.covers d.key key = true := by
  unfold hits
  rw [List.mem_flatMap]
  constructor
  · rintro ⟨root, hroot, he⟩
    obtain ⟨d, hd, rfl⟩ := (ht.mem_positions root e).1 he
    exact ⟨d, hd, (Key.mem_ancestors_iff _ _).1 hroot⟩
  · rintro ⟨d, hd, hc⟩
    exact ⟨d.key, (Key.mem_ancestors_iff _ _).2 hc, (ht.mem_positions _ e).2 ⟨d, hd, rfl⟩⟩

/-- No entry is visited twice: it stands under one key, and no ancestor comes twice. -/
theorem nodup_hits (ht : t.Consistent) (key : String) : (t.hits key).Nodup := by
  unfold hits
  rw [List.Nodup, List.pairwise_flatMap]
  refine ⟨fun root _ => ht.nodup_positions root, (Key.nodup_ancestors key).imp ?_⟩
  intro r r' hne e he e' he' hee
  subst hee
  obtain ⟨d, hd, rfl⟩ := (ht.mem_positions r e).1 he
  obtain ⟨d', hd', rfl⟩ := (ht.mem_positions r' e).1 he'
  rw [hd] at hd'
  exact hne (congrArg Dependency.key (Option.some.inj hd'))

/-- A visit of an entry, found under its own key. -/
def visit (t : Table γ) (validate : Bool) (c : Change × Nat) (x : Draft γ) (e : Nat) : Draft γ :=
  match t.entries[e]? with
  | none => x
  | some d => t.addEntry validate c.1 c.2 d.key x e

theorem addChange_eq_foldl_visit (ht : t.Consistent) (x : Draft γ) (c : Change × Nat) :
    t.addChange validate x c = (t.hits c.1.key).foldl (t.visit validate c) x := by
  unfold addChange hits
  rw [List.foldl_flatMap]
  congr 1
  funext x root
  -- every entry listed under `root` has it as its key
  suffices ∀ l : List Nat, (∀ e ∈ l, ∃ d, t.entries[e]? = some d ∧ d.key = root) →
      ∀ x, l.foldl (t.addEntry validate c.1 c.2 root) x = l.foldl (t.visit validate c) x from
    this _ (fun e he => (ht.mem_positions root e).1 he) x
  intro l
  induction l with
  | nil => intro _ x; rfl
  | cons e l ih =>
    intro hl x
    obtain ⟨d, hd, rfl⟩ := hl e List.mem_cons_self
    have hv : t.visit validate c x e = t.addEntry validate c.1 c.2 d.key x e := by
      unfold visit; rw [hd]
    rw [List.foldl_cons, List.foldl_cons, hv]
    exact ih (fun e' he' => hl e' (List.mem_cons_of_mem _ he')) _

/-- What a visit does: nothing where flavor or key do not fit. -/
theorem visit_eq {e : Nat} {d : Dependency γ} (hd : t.entries[e]? = some d) (c : Change × Nat)
    (hc : Key.covers d.key c.1.key = true) (x : Draft γ) :
    t.visit validate c x e =
      if d.kind.validate = validate ∧ d.matchesKey c.1.key = true then
        if d.kind.tree then x.cover e d c.1.op c.2 else x.push ⟨d, c.1.op, [c.2]⟩
      else x := by
  unfold visit addEntry
  simp only [hd]
  by_cases hv : d.kind.validate = validate
  · by_cases ht : d.kind.tree = true
    · simp [hv, ht, Dependency.matchesKey, hc]
    · simp [hv, ht, Dependency.matchesKey]
  · simp [hv]

/-! ## Along the pass -/

theorem tracks_visit (ht : t.Consistent) {x : Draft γ} (h : x.Tracks t validate) {e : Nat}
    {d : Dependency γ} (hd : t.entries[e]? = some d) (c : Change × Nat)
    (hc : Key.covers d.key c.1.key = true) : (t.visit validate c x e).Tracks t validate := by
  rw [visit_eq hd c hc]
  split
  · next hw =>
    split
    · next htree => exact h.cover ht hd htree _ _ hw.1
    · next htree => exact h.push (List.mem_of_getElem? hd) hw.1 htree
  · exact h

/-- A visit touches the calls of the visited dependency only. -/
theorem callsOf_visit (ht : t.Consistent) {x : Draft γ} (h : x.Tracks t validate) {e e₀ : Nat}
    {d d₀ : Dependency γ} (hd : t.entries[e]? = some d) (hd₀ : t.entries[e₀]? = some d₀)
    (hv₀ : d₀.kind.validate = validate) (c : Change × Nat)
    (hc : Key.covers d.key c.1.key = true) :
    (t.visit validate c x e).callsOf d₀.id =
      if e = e₀ ∧ d₀.matchesKey c.1.key = true then d₀.account c.1.op c.2 (x.callsOf d₀.id)
      else x.callsOf d₀.id := by
  rw [visit_eq hd c hc]
  by_cases he : e = e₀
  · subst he
    obtain rfl : d = d₀ := Option.some.inj (hd.symm.trans hd₀)
    by_cases hm : d.matchesKey c.1.key = true
    · simp only [hv₀, hm, and_self, if_true]
      split
      · next htree => exact h.callsOf_cover_self ht hd htree _ _
      · next htree => simp [Draft.callsOf, Draft.push, Dependency.account, htree]
    · simp [hm]
  · have hid : d₀.id ≠ d.id := fun hid => he (ht.id_inj hd hd₀ hid.symm)
    simp only [he, false_and, if_false]
    split
    · split
      · next htree => exact h.callsOf_cover_ne ht hd htree _ _ hid
      · simp [Draft.callsOf, Draft.push, Ne.symm hid]
    · rfl

/-- What the visits of different entries come to, for the tracking and for one dependency. -/
theorem foldl_visit (ht : t.Consistent) (c : Change × Nat) (es : List Nat)
    (hes : ∀ e ∈ es, ∃ d, t.entries[e]? = some d ∧ Key.covers d.key c.1.key = true)
    (hnd : es.Nodup) {x : Draft γ} (h : x.Tracks t validate) :
    (es.foldl (t.visit validate c) x).Tracks t validate ∧
    ∀ (e₀ : Nat) (d₀ : Dependency γ), t.entries[e₀]? = some d₀ → d₀.kind.validate = validate →
      (es.foldl (t.visit validate c) x).callsOf d₀.id =
        if e₀ ∈ es ∧ d₀.matchesKey c.1.key = true then d₀.account c.1.op c.2 (x.callsOf d₀.id)
        else x.callsOf d₀.id := by
  induction es generalizing x with
  | nil => exact ⟨h, fun e₀ d₀ _ _ => by simp⟩
  | cons e es ih =>
    obtain ⟨d, hd, hc⟩ := hes e List.mem_cons_self
    obtain ⟨hne, hnd⟩ := List.nodup_cons.1 hnd
    obtain ⟨htr, hcalls⟩ := ih (fun e' he' => hes e' (List.mem_cons_of_mem _ he')) hnd
      (tracks_visit ht h hd c hc)
    refine ⟨htr, fun e₀ d₀ hd₀ hv₀ => ?_⟩
    rw [List.foldl_cons, hcalls e₀ d₀ hd₀ hv₀, callsOf_visit ht h hd hd₀ hv₀ c hc]
    by_cases he : e = e₀
    · subst he
      simp [hne]
    · simp [he, Ne.symm he]

/-- A key that concerns a dependency lies in the subtree at its key. -/
theorem covers_of_matches {d : Dependency γ} {key : String} (hm : d.matchesKey key = true) :
    Key.covers d.key key = true := by
  unfold Dependency.matchesKey at hm
  split at hm
  · exact hm
  · rw [of_decide_eq_true hm]; exact Key.covers_self key

/-- A dependency whose key a change matches is among the visited entries. -/
theorem mem_hits_of_matches (ht : t.Consistent) {e : Nat} {d : Dependency γ}
    (hd : t.entries[e]? = some d) {key : String} (hm : d.matchesKey key = true) :
    e ∈ t.hits key :=
  (mem_hits ht key e).2 ⟨d, hd, covers_of_matches hm⟩

/-- The draft holds what is wanted for the changes seen. -/
structure Accounts (t : Table γ) (validate : Bool) (seen : List (Change × Nat)) (x : Draft γ) :
    Prop where
  tracks : x.Tracks t validate
  callsOf : ∀ (e : Nat) (d : Dependency γ), t.entries[e]? = some d →
    d.kind.validate = validate → x.callsOf d.id = d.wanted seen

theorem accounts_empty : Accounts t validate [] .empty where
  tracks := Draft.tracks_empty
  callsOf := by
    intro e d _ _
    simp [Draft.callsOf, Draft.empty, Dependency.wanted, Dependency.callsFor]

theorem Accounts.addChange (ht : t.Consistent) {seen : List (Change × Nat)} {x : Draft γ}
    (h : Accounts t validate seen x) (c : Change × Nat) :
    Accounts t validate (seen ++ [c]) (t.addChange validate x c) := by
  rw [addChange_eq_foldl_visit ht]
  obtain ⟨htr, hcalls⟩ := foldl_visit ht c (t.hits c.1.key) (fun e he => (mem_hits ht _ e).1 he)
    (nodup_hits ht _) h.tracks
  refine ⟨htr, fun e d hd hv => ?_⟩
  rw [hcalls e d hd hv, h.callsOf e d hd hv, Dependency.wanted_append]
  by_cases hm : d.matchesKey c.1.key = true
  · rw [if_pos ⟨mem_hits_of_matches ht hd hm, hm⟩, if_pos hm]
  · rw [if_neg (fun hw => hm hw.2), if_neg hm]

theorem accounts_draft (ht : t.Consistent) (validate : Bool) (changes : List (Change × Nat)) :
    Accounts t validate changes (t.draft validate changes) := by
  suffices ∀ seen x, Accounts t validate seen x →
      Accounts t validate (seen ++ changes) (changes.foldl (t.addChange validate) x) from
    this [] _ accounts_empty
  induction changes with
  | nil => intro seen x h; rwa [List.append_nil]
  | cons c cs ih =>
    intro seen x h
    rw [List.append_cons, List.foldl_cons]
    exact ih _ _ (h.addChange ht c)

/-! ## All calls -/

/-- The calls that changes ask of all dependencies of a flavor, in order of registration. -/
def wanted (t : Table γ) (changes : List Change) (validate : Bool) : List (Invocation γ) :=
  (t.entries.filter fun d => d.kind.validate = validate).flatMap fun d => d.wanted changes.zipIdx

/-- A list falls apart into what belongs to each of different keys. -/
theorem perm_flatMap_filter {α β κ : Type} [DecidableEq κ] (key : α → κ) (keyOf : β → κ) (bs : List β)
    (hbs : bs.Pairwise fun b b' => keyOf b ≠ keyOf b') (l : List α)
    (hl : ∀ a ∈ l, ∃ b ∈ bs, key a = keyOf b) :
    l.Perm (bs.flatMap fun b => l.filter fun a => key a = keyOf b) := by
  induction bs generalizing l with
  | nil =>
    cases l with
    | nil => simp
    | cons a l =>
      obtain ⟨b, hb, -⟩ := hl a List.mem_cons_self
      cases hb
  | cons b bs ih =>
    obtain ⟨hne, hbs⟩ := List.pairwise_cons.1 hbs
    have hrest := ih hbs (l.filter fun a => !decide (key a = keyOf b)) (by
      intro a ha
      obtain ⟨ha, hk⟩ := List.mem_filter.1 ha
      obtain ⟨b', hb', he⟩ := hl a ha
      rcases List.mem_cons.1 hb' with rfl | hb'
      · simp [he] at hk
      · exact ⟨b', hb', he⟩)
    have hsame : (bs.flatMap fun b' =>
          (l.filter fun a => !decide (key a = keyOf b)).filter fun a => key a = keyOf b') =
        bs.flatMap fun b' => l.filter fun a => key a = keyOf b' := by
      rw [List.flatMap_def, List.flatMap_def]
      congr 1
      refine List.map_congr_left fun b' hb' => ?_
      rw [List.filter_filter]
      refine List.filter_congr fun a _ => ?_
      by_cases hk : key a = keyOf b'
      · have := hne b' hb'
        simp [hk, Ne.symm this]
      · simp [hk]
    rw [List.flatMap_cons]
    rw [hsame] at hrest
    exact (List.filter_append_perm (fun a => decide (key a = keyOf b)) l).symm.trans
      (hrest.append_left _)

theorem draft_perm (ht : t.Consistent) (validate : Bool) (changes : List Change) :
    (t.draft validate changes.zipIdx).calls.Perm (t.wanted changes validate) := by
  have h := accounts_draft ht validate changes.zipIdx
  have hids : (t.entries.filter fun d => d.kind.validate = validate).Pairwise
      fun d d' => d.id ≠ d'.id :=
    (ht.ids.filter _).imp fun hlt => Nat.ne_of_lt hlt
  have hperm := perm_flatMap_filter (fun i : Invocation γ => i.dependency.id) Dependency.id
    _ hids (t.draft validate changes.zipIdx).calls (by
      intro i hi
      obtain ⟨hm, hv⟩ := h.tracks.owned i.dependency (List.mem_map_of_mem hi)
      exact ⟨i.dependency, List.mem_filter.2 ⟨hm, decide_eq_true hv⟩, rfl⟩)
  have hcalls : ∀ d ∈ t.entries.filter fun d => d.kind.validate = validate,
      (t.draft validate changes.zipIdx).calls.filter (fun i => i.dependency.id = d.id) =
        d.wanted changes.zipIdx := by
    intro d hd
    obtain ⟨hm, hv⟩ := List.mem_filter.1 hd
    obtain ⟨e, he⟩ := List.getElem?_of_mem hm
    exact h.callsOf e d he (of_decide_eq_true hv)
  rw [List.flatMap_def, List.map_congr_left hcalls] at hperm
  exact hperm

theorem commitVector_perm (ht : t.Consistent) (validate : Bool) (changes : List Change) :
    (t.commitVector changes validate).Perm (t.wanted changes validate) :=
  (List.mergeSort_perm _ _).trans (draft_perm ht validate changes)

theorem changes_ne_nil_of_wanted {changes : List Change} {i : Invocation γ}
    (h : i ∈ t.wanted changes validate) : i.changes ≠ [] := by
  obtain ⟨d, -, hi⟩ := List.mem_flatMap.1 h
  exact (Dependency.mem_callsFor hi).2

end Table

/-! ## The order of calls -/

namespace Invocation

variable {γ : Type}

/-- The strict order of calls: by priority, then by id, then by the first position covered. -/
def Before (a b : Invocation γ) : Prop :=
  a.dependency.priority < b.dependency.priority ∨
  a.dependency.priority = b.dependency.priority ∧
    (a.dependency.id < b.dependency.id ∨
     a.dependency.id = b.dependency.id ∧ a.first < b.first)

theorem precedes_iff (a b : Invocation γ) : a.precedes b = true ↔
    a.dependency.priority.toNat < b.dependency.priority.toNat ∨
    a.dependency.priority.toNat = b.dependency.priority.toNat ∧
      (a.dependency.id < b.dependency.id ∨
       a.dependency.id = b.dependency.id ∧ a.first ≤ b.first) := by
  simp only [precedes, Bool.or_eq_true, Bool.and_eq_true, decide_eq_true_eq,
    UInt16.lt_iff_toNat_lt, UInt16.toNat_inj]

theorem precedes_trans (a b c : Invocation γ) (hab : a.precedes b = true)
    (hbc : b.precedes c = true) : a.precedes c = true := by
  rw [precedes_iff] at *
  omega

theorem precedes_total (a b : Invocation γ) : (a.precedes b || b.precedes a) = true := by
  rw [Bool.or_eq_true, precedes_iff, precedes_iff]
  omega

/-- Calls that differ in id or first position are in strict order. -/
theorem before_of_precedes {a b : Invocation γ} (h : a.precedes b = true)
    (hne : a.dependency.id ≠ b.dependency.id ∨ a.first ≠ b.first) : a.Before b := by
  rw [precedes_iff] at h
  rw [Before, UInt16.lt_iff_toNat_lt, ← UInt16.toNat_inj]
  omega

theorem Before.asymm {a b : Invocation γ} (hab : a.Before b) : ¬ b.Before a := by
  rw [Before, UInt16.lt_iff_toNat_lt, ← UInt16.toNat_inj] at *
  omega

end Invocation

namespace Table

variable {γ : Type} {t : Table γ} {validate : Bool}

theorem pairwise_zipIdx {α : Type} (l : List α) : l.zipIdx.Pairwise fun a b => a.2 < b.2 := by
  have h : (l.zipIdx.map Prod.snd).Pairwise (· < ·) := by
    rw [List.zipIdx_map_snd]
    exact List.pairwise_lt_range'
  exact List.pairwise_map.1 h

/-- No two wanted calls agree in id and first position. -/
theorem pairwise_wanted (ht : t.Consistent) (validate : Bool) (changes : List Change) :
    (t.wanted changes validate).Pairwise fun a b =>
      a.dependency.id ≠ b.dependency.id ∨ a.first ≠ b.first := by
  rw [wanted, List.pairwise_flatMap]
  constructor
  · intro d _
    unfold Dependency.wanted Dependency.callsFor
    split
    · split
      · exact List.Pairwise.nil
      · exact List.pairwise_singleton _ _
    · rw [List.pairwise_map]
      exact ((pairwise_zipIdx changes).filter _).imp fun hlt => Or.inr (Nat.ne_of_lt hlt)
  · refine (ht.ids.filter _).imp ?_
    intro d d' hlt a ha b hb
    rw [(Dependency.mem_callsFor ha).1, (Dependency.mem_callsFor hb).1]
    exact Or.inl (Nat.ne_of_lt hlt)

theorem pairwise_commitVector (ht : t.Consistent) (validate : Bool) (changes : List Change) :
    (t.commitVector changes validate).Pairwise Invocation.Before := by
  have hdiff := (commitVector_perm ht validate changes).symm.pairwise
    (pairwise_wanted ht validate changes) (by
      intro a b h
      rcases h with h | h
      · exact Or.inl (Ne.symm h)
      · exact Or.inr (Ne.symm h))
  have hsort : (t.commitVector changes validate).Pairwise fun a b => a.precedes b = true :=
    List.pairwise_mergeSort Invocation.precedes_trans Invocation.precedes_total _
  exact (hsort.and hdiff).imp fun h => Invocation.before_of_precedes h.1 h.2

/-! ## Top theorem -/

/-- **The commit vector is the strictly ordered list of what the dependencies want**, after every
history of the table, and each of its calls covers a change. -/
theorem build_commitVector_eq_iff (commands : List (Command γ)) (changes : List Change)
    (validate : Bool) :
    (∀ calls, (build commands).commitVector changes validate = calls ↔
      calls.Perm ((build commands).wanted changes validate) ∧
        calls.Pairwise Invocation.Before) ∧
    ∀ i ∈ (build commands).commitVector changes validate, i.changes ≠ [] := by
  have ht := consistent_build commands
  have hperm := commitVector_perm ht validate changes
  have hsort := pairwise_commitVector ht validate changes
  refine ⟨fun calls => ⟨?_, ?_⟩, fun i hi => ?_⟩
  · rintro rfl
    exact ⟨hperm, hsort⟩
  · rintro ⟨hp, hs⟩
    exact List.Perm.eq_of_pairwise (fun a b _ _ hab hba => absurd hba hab.asymm) hsort hs
      (hperm.trans hp.symm)
  · exact changes_ne_nil_of_wanted (hperm.mem_iff.1 hi)

end Table

end PluginHost
