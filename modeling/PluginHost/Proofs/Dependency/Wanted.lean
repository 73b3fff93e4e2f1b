import PluginHost.Dependency.CommitVector
import PluginHost.Proofs.Dependency.Table
import PluginHost.Proofs.Key

/-!
# The calls that a change set asks of a dependency

`Dependency.wanted` says for one dependency alone which calls a change set asks for.  The one pass
over the changes works on all dependencies at once; each of its steps does to the calls of the
dependency it meets what one more change does to the wanted ones, and nothing to the others.

    d.wanted (changes ++ [c]) = d.account c.op pos (d.wanted changes)      (wanted_append)
    (x.cover e d op pos).callsOf d.id = d.account op pos (x.callsOf d.id)  (Tracks.callsOf_cover_self)
    (x.cover e d op pos).callsOf id = x.callsOf id for another id          (Tracks.callsOf_cover_ne)

The invariant (`Draft.Tracks`) says of a slot that it holds the call of its entry, and that no
other place does.
-/

namespace PluginHost

/-! ## Operations summed up -/

/-- One operation for many: an addition if all are, a deletion if all are, a change otherwise. -/
def Op.summary (ops : List Op) : Op :=
  if ∀ op ∈ ops, op = .add then .add
  else if ∀ op ∈ ops, op = .delete then .delete
  else .change

theorem Op.summary_singleton (op : Op) : Op.summary [op] = op := by
  cases op <;> rfl

/-- Merging one operation after the other sums them up. -/
theorem Op.summary_append (ops : List Op) (op : Op) (h : ops ≠ []) :
    Op.summary (ops ++ [op]) = (Op.summary ops).merge op := by
  have happ : ∀ o : Op, (∀ x ∈ ops ++ [op], x = o) ↔ (∀ x ∈ ops, x = o) ∧ op = o := by
    intro o
    rw [List.forall_mem_append, List.forall_mem_singleton]
  unfold Op.summary
  simp only [happ]
  by_cases hadd : ∀ o ∈ ops, o = .add
  · have hdel : ¬ ∀ o ∈ ops, o = .delete := by
      obtain ⟨a, ha⟩ := List.exists_mem_of_ne_nil ops h
      intro hd
      have := (hadd a ha).symm.trans (hd a ha)
      cases this
    simp only [eq_true hadd, eq_false hdel]
    cases op <;> decide
  · simp only [eq_false hadd]
    by_cases hdel : ∀ o ∈ ops, o = .delete
    · simp only [eq_true hdel]
      cases op <;> decide
    · simp only [eq_false hdel]
      cases op <;> decide

/-! ## Calls of one dependency -/

namespace Dependency

variable {γ : Type}

/-- The calls for the changes that concern a dependency, given with their positions: on a key one
for each change, on a subtree one for all of them, if there are any. -/
def callsFor (d : Dependency γ) (own : List (Change × Nat)) : List (Invocation γ) :=
  if d.kind.tree then
    if own = [] then [] else [⟨d, Op.summary (own.map fun c => c.1.op), own.map Prod.snd⟩]
  else own.map fun c => ⟨d, c.1.op, [c.2]⟩

/-- The calls that changes ask of a dependency. -/
def wanted (d : Dependency γ) (changes : List (Change × Nat)) : List (Invocation γ) :=
  d.callsFor (changes.filter fun c => d.matchesKey c.1.key)

/-- The calls of a dependency after one more change that concerns it. -/
def account (d : Dependency γ) (op : Op) (pos : Nat) (calls : List (Invocation γ)) :
    List (Invocation γ) :=
  if d.kind.tree then
    if calls = [] then [⟨d, op, [pos]⟩] else calls.map fun i => i.extend op pos
  else calls ++ [⟨d, op, [pos]⟩]

theorem callsFor_append (d : Dependency γ) (own : List (Change × Nat)) (c : Change × Nat) :
    d.callsFor (own ++ [c]) = d.account c.1.op c.2 (d.callsFor own) := by
  unfold callsFor account
  by_cases ht : d.kind.tree = true
  · rw [if_pos ht, if_pos ht, if_pos ht]
    by_cases ho : own = []
    · simp [ho, Op.summary_singleton]
    · have hs := Op.summary_append (own.map fun c => c.1.op) c.1.op (by simpa using ho)
      simp [ho, hs, Invocation.extend]
  · rw [if_neg ht, if_neg ht, if_neg ht, List.map_append]
    rfl

/-- What is wanted grows change by change. -/
theorem wanted_append (d : Dependency γ) (changes : List (Change × Nat)) (c : Change × Nat) :
    d.wanted (changes ++ [c]) =
      if d.matchesKey c.1.key then d.account c.1.op c.2 (d.wanted changes)
      else d.wanted changes := by
  unfold wanted
  rw [List.filter_append]
  split
  · next hm => simp [hm, callsFor_append]
  · next hm => simp [hm]

theorem mem_callsFor {d : Dependency γ} {own : List (Change × Nat)} {i : Invocation γ}
    (h : i ∈ d.callsFor own) : i.dependency = d ∧ i.changes ≠ [] := by
  unfold callsFor at h
  split at h
  · split at h
    · cases h
    · next ho =>
      rw [List.mem_singleton.1 h]
      exact ⟨rfl, by simpa using ho⟩
  · obtain ⟨c, -, rfl⟩ := List.mem_map.1 h
    exact ⟨rfl, by simp⟩

end Dependency

/-! ## The draft -/

namespace Draft

variable {γ : Type}

/-- The calls of the dependency with an id. -/
def callsOf (x : Draft γ) (id : Nat) : List (Invocation γ) :=
  x.calls.filter fun i => i.dependency.id = id

/-- The dependencies that are called, in order. -/
def owners (x : Draft γ) : List (Dependency γ) := x.calls.map Invocation.dependency

/-- All calls are for entries of the flavor. -/
def Owned (t : Table γ) (validate : Bool) (x : Draft γ) : Prop :=
  ∀ d ∈ x.owners, d ∈ t.entries ∧ d.kind.validate = validate

/-- Moreover, the slot of an entry on a subtree is the one place where it is called. -/
structure Tracks (t : Table γ) (validate : Bool) (x : Draft γ) : Prop where
  owned : x.Owned t validate
  slot_iff : ∀ e d, t.entries[e]? = some d → d.kind.tree = true →
    ∀ j, x.slot? e = some j ↔ x.owners[j]? = some d

@[simp] theorem owners_push (x : Draft γ) (i : Invocation γ) :
    (x.push i).owners = x.owners ++ [i.dependency] := by
  simp [owners, push]

@[simp] theorem slot?_push (x : Draft γ) (i : Invocation γ) (e : Nat) :
    (x.push i).slot? e = x.slot? e := rfl

theorem owners_modify (x : Draft γ) (j : Nat) (op : Op) (pos : Nat) :
    ((x.calls.modify j fun i => i.extend op pos).map Invocation.dependency) = x.owners := by
  unfold owners
  apply List.ext_getElem?
  intro k
  rw [List.getElem?_map, List.getElem?_map, List.getElem?_modify]
  cases x.calls[k]? with
  | none => rfl
  | some i => by_cases hjk : j = k <;> simp [hjk, Invocation.extend]

/-- Covering a change adds an owner only where the entry has no slot yet. -/
theorem owners_cover (x : Draft γ) (e : Nat) (d : Dependency γ) (op : Op) (pos : Nat) :
    (x.cover e d op pos).owners =
      match x.slot? e with
      | some _ => x.owners
      | none => x.owners ++ [d] := by
  unfold cover
  cases x.slot? e with
  | some j => exact owners_modify x j op pos
  | none => simp [owners]

theorem slot?_append (x : Draft γ) (calls : List (Invocation γ)) (e e' j : Nat) :
    (⟨calls, x.slots ++ [(e, j)]⟩ : Draft γ).slot? e' =
      (x.slot? e').or (if e = e' then some j else none) := by
  unfold slot?
  rw [List.find?_append]
  cases x.slots.find? fun s => s.1 = e' with
  | some s => rfl
  | none => by_cases h : e = e' <;> simp [h]

/-! ## One entry -/

variable {t : Table γ} {validate : Bool} {x : Draft γ}

theorem owned_empty : (empty : Draft γ).Owned t validate := by
  intro d hd
  cases hd

theorem Owned.push (h : x.Owned t validate) {i : Invocation γ} (hm : i.dependency ∈ t.entries)
    (hv : i.dependency.kind.validate = validate) : (x.push i).Owned t validate := by
  intro d hd
  rw [owners_push, List.mem_append, List.mem_singleton] at hd
  rcases hd with hd | rfl
  · exact h d hd
  · exact ⟨hm, hv⟩

theorem Owned.cover (h : x.Owned t validate) {d : Dependency γ} (hm : d ∈ t.entries)
    (hv : d.kind.validate = validate) (e : Nat) (op : Op) (pos : Nat) :
    (x.cover e d op pos).Owned t validate := by
  intro d' hd'
  rw [owners_cover] at hd'
  split at hd'
  · exact h d' hd'
  · rw [List.mem_append, List.mem_singleton] at hd'
    rcases hd' with hd' | rfl
    · exact h d' hd'
    · exact ⟨hm, hv⟩

theorem tracks_empty : (empty : Draft γ).Tracks t validate where
  owned := owned_empty
  slot_iff := by intro e d _ _ j; simp [empty, owners, slot?]

theorem getElem?_concat_of_ne {α : Type} (l : List α) {a b : α} (h : a ≠ b) (j : Nat) :
    (l ++ [a])[j]? = some b ↔ l[j]? = some b := by
  rcases Nat.lt_or_ge j l.length with hj | hj
  · rw [List.getElem?_append_left hj]
  · rw [List.getElem?_append_right hj, List.getElem?_eq_none hj]
    cases hk : j - l.length with
    | zero => simp [h]
    | succ k => simp

theorem getElem?_concat_of_not_mem {α : Type} (l : List α) {a : α} (h : a ∉ l) (j : Nat) :
    (l ++ [a])[j]? = some a ↔ j = l.length := by
  rcases Nat.lt_or_ge j l.length with hj | hj
  · rw [List.getElem?_append_left hj]
    constructor
    · intro he; exact absurd (List.mem_of_getElem? he) h
    · intro he; omega
  · rw [List.getElem?_append_right hj]
    cases hk : j - l.length with
    | zero => simp; omega
    | succ k => simp; omega

theorem Tracks.push (h : x.Tracks t validate) {i : Invocation γ} (hm : i.dependency ∈ t.entries)
    (hv : i.dependency.kind.validate = validate) (hk : ¬ i.dependency.kind.tree = true) :
    (x.push i).Tracks t validate where
  owned := h.owned.push hm hv
  slot_iff := by
    intro e d hd ht j
    have hne : i.dependency ≠ d := by
      intro he
      rw [he] at hk
      exact hk ht
    rw [slot?_push, owners_push, getElem?_concat_of_ne _ hne, h.slot_iff e d hd ht]

/-- Calls with the id of an entry are calls of that entry. -/
theorem Tracks.dependency_eq (ht : t.Consistent) (h : x.Tracks t validate) {e : Nat}
    {d : Dependency γ} (hd : t.entries[e]? = some d) {i : Invocation γ} (hi : i ∈ x.calls)
    (hid : i.dependency.id = d.id) : i.dependency = d := by
  have hm := (h.owned i.dependency (List.mem_map_of_mem hi)).1
  obtain ⟨e', he'⟩ := List.getElem?_of_mem hm
  have hee : e' = e := ht.id_inj he' hd hid
  rw [hee, hd] at he'
  exact (Option.some.inj he').symm

theorem Tracks.not_mem_owners (h : x.Tracks t validate) {e : Nat} {d : Dependency γ}
    (hd : t.entries[e]? = some d) (htree : d.kind.tree = true) (hs : x.slot? e = none) :
    d ∉ x.owners := by
  intro hm
  obtain ⟨j, hj⟩ := List.getElem?_of_mem hm
  rw [← h.slot_iff e d hd htree, hs] at hj
  cases hj

section
variable (ht : t.Consistent) (h : x.Tracks t validate) {e : Nat} {d : Dependency γ}
  (hd : t.entries[e]? = some d) (htree : d.kind.tree = true) (op : Op) (pos : Nat)

include ht h hd htree

/-- In a slot stands the one call of its entry. -/
theorem Tracks.slot_split {j : Nat} (hs : x.slot? e = some j) :
    ∃ l₁ a l₂, x.calls = l₁ ++ a :: l₂ ∧
      (x.calls.modify j fun i => i.extend op pos) = l₁ ++ a.extend op pos :: l₂ ∧
      a.dependency = d ∧ ∀ i ∈ l₁ ++ l₂, i.dependency.id ≠ d.id := by
  have hslot := h.slot_iff e d hd htree
  have hj := (hslot j).1 hs
  have hlt : j < x.calls.length := by
    have := (List.getElem?_eq_some_iff.1 hj).1
    rwa [owners, List.length_map] at this
  obtain ⟨l₁, a, l₂, hx, hl, hmod⟩ := List.exists_of_modify (fun i => i.extend op pos) hlt
  have ha : a.dependency = d := by
    rw [owners, hx, ← hl] at hj
    simpa using hj
  -- a call of this entry elsewhere would be a second slot
  have honly : ∀ k i, x.calls[k]? = some i → i.dependency.id = d.id → k = j := by
    intro k i hk hid
    have hdep := h.dependency_eq ht hd (List.mem_of_getElem? hk) hid
    have hk' : x.owners[k]? = some d := by rw [owners, List.getElem?_map, hk, ← hdep]; rfl
    have hsk := (hslot k).2 hk'
    rw [hs] at hsk
    exact (Option.some.inj hsk).symm
  refine ⟨l₁, a, l₂, hx, hmod, ha, fun i hi hid => ?_⟩
  rcases List.mem_append.1 hi with hi | hi
  · obtain ⟨k, hk⟩ := List.getElem?_of_mem hi
    have hkl := (List.getElem?_eq_some_iff.1 hk).1
    have := honly k i (by rw [hx, List.getElem?_append_left hkl, hk]) hid
    omega
  · obtain ⟨k, hk⟩ := List.getElem?_of_mem hi
    have := honly (l₁.length + (k + 1)) i
      (by rw [hx, List.getElem?_append_right (Nat.le_add_right _ _)]; simpa using hk) hid
    omega

theorem Tracks.cover (hv : d.kind.validate = validate) :
    (x.cover e d op pos).Tracks t validate := by
  refine ⟨h.owned.cover (List.mem_of_getElem? hd) hv e op pos, fun e' d' hd' ht' j' => ?_⟩
  rw [owners_cover]
  unfold Draft.cover
  cases hs : x.slot? e with
  | some j => exact h.slot_iff e' d' hd' ht' j'
  | none =>
    have hn := h.not_mem_owners hd htree hs
    have hlen : x.owners.length = x.calls.length := List.length_map _
    simp only [slot?_append]
    by_cases he : e = e'
    · subst he
      obtain rfl : d = d' := Option.some.inj (hd.symm.trans hd')
      rw [hs, if_pos rfl, getElem?_concat_of_not_mem _ hn, hlen]
      simp [eq_comm]
    · have hne : d ≠ d' := by
        rintro rfl
        exact he (ht.id_inj hd hd' rfl)
      rw [if_neg he, Option.or_none, getElem?_concat_of_ne _ hne, h.slot_iff e' d' hd' ht']

/-- Covering a change leaves the calls of the other dependencies as they were. -/
theorem Tracks.callsOf_cover_ne {id : Nat} (hid : id ≠ d.id) :
    (x.cover e d op pos).callsOf id = x.callsOf id := by
  unfold Draft.cover callsOf
  cases hs : x.slot? e with
  | none => simp [Ne.symm hid]
  | some j =>
    obtain ⟨l₁, a, l₂, hx, hmod, ha, -⟩ := h.slot_split ht hd htree op pos hs
    simp only [hmod]
    simp [hx, Invocation.extend, ha, Ne.symm hid]

theorem Tracks.callsOf_cover_self :
    (x.cover e d op pos).callsOf d.id = d.account op pos (x.callsOf d.id) := by
  unfold Draft.cover Dependency.account callsOf
  rw [if_pos htree]
  cases hs : x.slot? e with
  | none =>
    have hn := h.not_mem_owners hd htree hs
    have hnil : (x.calls.filter fun i => i.dependency.id = d.id) = [] := by
      rw [List.filter_eq_nil_iff]
      intro i hi hid
      rw [← h.dependency_eq ht hd hi (of_decide_eq_true hid)] at hn
      exact hn (List.mem_map_of_mem hi)
    simp [hnil]
  | some j =>
    obtain ⟨l₁, a, l₂, hx, hmod, ha, hother⟩ := h.slot_split ht hd htree op pos hs
    have h₁ : (l₁.filter fun i => i.dependency.id = d.id) = [] := by
      rw [List.filter_eq_nil_iff]
      intro i hi
      simpa using hother i (List.mem_append_left _ hi)
    have h₂ : (l₂.filter fun i => i.dependency.id = d.id) = [] := by
      rw [List.filter_eq_nil_iff]
      intro i hi
      simpa using hother i (List.mem_append_right _ hi)
    simp only [hmod]
    simp [hx, h₁, h₂, Invocation.extend, ha]

end

end Draft

end PluginHost
