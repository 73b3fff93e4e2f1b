import PluginHost.Proofs.Dependency.CommitVector

/-!
# What the table answers

Which dependencies a key concerns is decided in three ways: entry by entry (`matchesKey`), by the
index along the ancestors of the key (`matching`), and in the pass over a change set
(`commitVector`).  They agree, for any text as a key.

    t.lookup key is the entries on the key, in order of registration                    (lookup_eq)
    t.matching key is the entries that the key concerns                             (matching_perm)
    ... strictly ordered by priority and id                                     (pairwise_matching)
    the calls for one change are the matching dependencies of the flavor     (commitVector_singleton)
    a dependency is called just if it matches some change                (mem_map_commitVector_iff)
    all of this after every history of the table                         (build_queries_agree)
-/

namespace PluginHost

namespace Dependency

variable {γ : Type}

/-- The strict order of calls of different dependencies: by priority, then by id. -/
def Before (a b : Dependency γ) : Prop :=
  a.priority < b.priority ∨ a.priority = b.priority ∧ a.id < b.id

theorem Before.asymm {a b : Dependency γ} (hab : a.Before b) : ¬ b.Before a := by
  rw [Before, UInt16.lt_iff_toNat_lt, ← UInt16.toNat_inj] at *
  omega

/-! ## What is wanted of one dependency -/

/-- One change asks a dependency for one call, if it concerns it. -/
theorem wanted_singleton (d : Dependency γ) (c : Change × Nat) :
    d.wanted [c] = if d.matchesKey c.1.key then [⟨d, c.1.op, [c.2]⟩] else [] := by
  have h := d.wanted_append [] c
  rw [List.nil_append] at h
  rw [h]
  simp [wanted, account, callsFor]

theorem callsFor_eq_nil_iff (d : Dependency γ) (own : List (Change × Nat)) :
    d.callsFor own = [] ↔ own = [] := by
  unfold callsFor
  split
  · split
    · next ho => simp [ho]
    · next ho => simp [ho]
  · rw [List.map_eq_nil_iff]

/-- Changes ask for some call just if one of them concerns the dependency. -/
theorem wanted_ne_nil_iff (d : Dependency γ) (changes : List Change) :
    d.wanted changes.zipIdx ≠ [] ↔ ∃ c ∈ changes, d.matchesKey c.key = true := by
  rw [wanted, Ne, callsFor_eq_nil_iff, List.filter_eq_nil_iff]
  constructor
  · intro h
    obtain ⟨c, hc, hm⟩ : ∃ c ∈ changes.zipIdx, d.matchesKey c.1.key = true := by simpa using h
    exact ⟨c.1, List.mem_of_getElem? (List.mem_zipIdx_iff_getElem?.1 hc), hm⟩
  · rintro ⟨c, hc, hm⟩ hnone
    obtain ⟨n, hn⟩ := List.getElem?_of_mem hc
    exact hnone (c, n) (List.mem_zipIdx_iff_getElem?.2 hn) hm

end Dependency

namespace Table

variable {γ : Type} {t : Table γ} {validate : Bool}

/-! ## Entries on a key -/

theorem lookup_eq (ht : t.Consistent) (key : String) :
    t.lookup key = t.entries.filter fun d => d.key = key := by
  have hfound : ∀ e ∈ t.entries.zipIdx, t.entries[e.2]? = some e.1 := fun e he =>
    List.mem_zipIdx_iff_getElem?.1 he
  have hkey := List.filter_map (f := Prod.fst) (p := fun d : Dependency γ => d.key = key)
    (l := t.entries.zipIdx)
  rw [List.zipIdx_map_fst] at hkey
  rw [lookup, ht.positions, List.filterMap_map, hkey, ← List.filterMap_eq_map]
  exact List.filterMap_congr fun e he => hfound e (List.mem_filter.1 he).1

/-! ## Entries that a key concerns -/

theorem precedes_iff (a b : Dependency γ) : precedes a b = true ↔
    a.priority.toNat < b.priority.toNat ∨
    a.priority.toNat = b.priority.toNat ∧ a.id ≤ b.id := by
  simp only [precedes, Bool.or_eq_true, Bool.and_eq_true, decide_eq_true_eq,
    UInt16.lt_iff_toNat_lt, UInt16.toNat_inj]

theorem precedes_trans (a b c : Dependency γ) (hab : precedes a b = true)
    (hbc : precedes b c = true) : precedes a c = true := by
  rw [precedes_iff] at *
  omega

theorem precedes_total (a b : Dependency γ) : (precedes a b || precedes b a) = true := by
  rw [Bool.or_eq_true, precedes_iff, precedes_iff]
  omega

theorem before_of_precedes {a b : Dependency γ} (h : precedes a b = true) (hne : a.id ≠ b.id) :
    a.Before b := by
  rw [precedes_iff] at h
  rw [Dependency.Before, UInt16.lt_iff_toNat_lt, ← UInt16.toNat_inj]
  omega

/-- The way along the ancestors finds the entries that the key concerns, each once. -/
theorem matching_perm (ht : t.Consistent) (key : String) :
    (t.matching key).Perm (t.entries.filter fun d => d.matchesKey key) := by
  have hsplit := perm_flatMap_filter Dependency.key id (Key.ancestors key) (Key.nodup_ancestors key)
    (t.entries.filter fun d => d.matchesKey key) (by
      intro d hd
      have hc := covers_of_matches (List.mem_filter.1 hd).2
      exact ⟨d.key, (Key.mem_ancestors_iff _ _).2 hc, rfl⟩)
  have hfound : ((Key.ancestors key).flatMap t.lookup).filter (fun d => d.matchesKey key) =
      (Key.ancestors key).flatMap fun root =>
        (t.entries.filter fun d => d.matchesKey key).filter fun d => d.key = root := by
    rw [List.filter_flatMap]
    congr 1
    funext root
    rw [lookup_eq ht, List.filter_filter, List.filter_filter]
    exact List.filter_congr fun d _ => Bool.and_comm _ _
  rw [matching, hfound]
  exact (List.mergeSort_perm _ _).trans hsplit.symm

theorem mem_matching (ht : t.Consistent) (key : String) (d : Dependency γ) :
    d ∈ t.matching key ↔ d ∈ t.entries ∧ d.matchesKey key = true := by
  rw [(matching_perm ht key).mem_iff, List.mem_filter]

theorem pairwise_matching (ht : t.Consistent) (key : String) :
    (t.matching key).Pairwise Dependency.Before := by
  have hids : (t.entries.filter fun d => d.matchesKey key).Pairwise fun a b => a.id ≠ b.id :=
    (ht.ids.filter _).imp Nat.ne_of_lt
  have hdiff := (matching_perm ht key).symm.pairwise hids Ne.symm
  have hsort : (t.matching key).Pairwise fun a b => precedes a b = true :=
    List.pairwise_mergeSort precedes_trans precedes_total _
  exact (hsort.and hdiff).imp fun h => before_of_precedes h.1 h.2

/-- No other list has these entries in this order. -/
theorem matching_eq_iff (ht : t.Consistent) (key : String) (deps : List (Dependency γ)) :
    t.matching key = deps ↔ deps.Perm (t.entries.filter fun d => d.matchesKey key) ∧
      deps.Pairwise Dependency.Before := by
  have hperm := matching_perm ht key
  have hsort := pairwise_matching ht key
  constructor
  · rintro rfl
    exact ⟨hperm, hsort⟩
  · rintro ⟨hp, hs⟩
    exact List.Perm.eq_of_pairwise (fun a b _ _ hab hba => absurd hba hab.asymm)
      hsort hs (hperm.trans hp.symm)

/-! ## Calls -/

/-- What one change asks of all dependencies of a flavor. -/
theorem wanted_one (t : Table γ) (c : Change) (validate : Bool) :
    t.wanted [c] validate =
      ((t.entries.filter fun d => d.matchesKey c.key).filter fun d => d.kind.validate = validate).map
        fun d => ⟨d, c.op, [0]⟩ := by
  have hone : ∀ d : Dependency γ, d.wanted [(c, 0)]
      = if d.matchesKey c.key then [⟨d, c.op, [0]⟩] else [] := fun d => d.wanted_singleton (c, 0)
  unfold wanted
  simp only [List.zipIdx_singleton, hone]
  induction t.entries with
  | nil => rfl
  | cons d ds ih =>
    by_cases hv : d.kind.validate = validate <;> by_cases hm : d.matchesKey c.key = true <;>
      simp [hv, hm, ih]

theorem commitVector_singleton (ht : t.Consistent) (c : Change) (validate : Bool) :
    t.commitVector [c] validate =
      ((t.matching c.key).filter fun d => d.kind.validate = validate).map fun d =>
        ⟨d, c.op, [0]⟩ := by
  have hperm := commitVector_perm ht validate [c]
  rw [wanted_one] at hperm
  have hmatching := ((matching_perm ht c.key).filter fun d => d.kind.validate = validate).map
    fun d => (⟨d, c.op, [0]⟩ : Invocation γ)
  refine List.Perm.eq_of_pairwise (fun a b _ _ hab hba => absurd hba hab.asymm)
    (pairwise_commitVector ht validate [c]) ?_ (hperm.trans hmatching.symm)
  rw [List.pairwise_map]
  exact ((pairwise_matching ht c.key).filter _).imp fun h => h.imp_right fun h => ⟨h.1, .inl h.2⟩

/-- The dependencies that are called are those of the flavor that match the key of some change. -/
theorem mem_map_commitVector_iff (ht : t.Consistent) (changes : List Change) (validate : Bool)
    (d : Dependency γ) :
    d ∈ (t.commitVector changes validate).map Invocation.dependency ↔
      d.kind.validate = validate ∧ ∃ c ∈ changes, d ∈ t.matching c.key := by
  rw [((commitVector_perm ht validate changes).map _).mem_iff, wanted, List.mem_map]
  simp only [mem_matching ht]
  constructor
  · rintro ⟨i, hi, rfl⟩
    obtain ⟨d, hd, hi⟩ := List.mem_flatMap.1 hi
    obtain ⟨hm, hv⟩ := List.mem_filter.1 hd
    obtain ⟨c, hc, hk⟩ := (d.wanted_ne_nil_iff changes).1 (List.ne_nil_of_mem hi)
    rw [(Dependency.mem_callsFor hi).1]
    exact ⟨of_decide_eq_true hv, c, hc, hm, hk⟩
  · rintro ⟨hv, c, hc, hm, hk⟩
    obtain ⟨i, hi⟩ := List.exists_mem_of_ne_nil _ ((d.wanted_ne_nil_iff changes).2 ⟨c, hc, hk⟩)
    refine ⟨i, List.mem_flatMap.2 ⟨d, ?_, hi⟩, (Dependency.mem_callsFor hi).1⟩
    exact List.mem_filter.2 ⟨hm, decide_eq_true hv⟩

/-! ## Top theorem -/

/-- **All queries agree**, after every history of the table: what is looked up under a key is its
entries, in the order of registration; what matches a key is the entries that it concerns, strictly
ordered; a single change calls just those of the flavor, each with its operation; and any change set
calls those that match the key of some change. -/
theorem build_queries_agree (commands : List (Command γ)) :
    let t := build commands
    (∀ key, (t.lookup key = t.entries.filter fun d => d.key = key) ∧
      (t.lookup key).Pairwise fun a b => a.id < b.id) ∧
    (∀ key deps, t.matching key = deps ↔
      deps.Perm (t.entries.filter fun d => d.matchesKey key) ∧ deps.Pairwise Dependency.Before) ∧
    (∀ c validate, t.commitVector [c] validate =
      ((t.matching c.key).filter fun d => d.kind.validate = validate).map fun d =>
        ⟨d, c.op, [0]⟩) ∧
    ∀ changes validate d, d ∈ (t.commitVector changes validate).map Invocation.dependency ↔
      d.kind.validate = validate ∧ ∃ c ∈ changes, d ∈ t.matching c.key := by
  intro t
  have ht : t.Consistent := consistent_build commands
  refine ⟨fun key => ⟨lookup_eq ht key, ?_⟩, matching_eq_iff ht, commitVector_singleton ht,
    mem_map_commitVector_iff ht⟩
  rw [lookup_eq ht]
  exact ht.ids.filter _

end Table

end PluginHost
