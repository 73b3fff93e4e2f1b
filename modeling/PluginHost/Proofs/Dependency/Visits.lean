import PluginHost.Proofs.Dependency.CommitVector

/-!
# Along the pass over the changes

The pass visits, for each change and each ancestor of its key, the entries that the index lists.
After any number of visits, every slot is that of a call, and every call covers some change; so
neither looking up a slot nor asking for the first change can fail.

    t.commitVector changes validate = the sorted calls after all visits   (commitVector_eq_draftAfter)
    (t.draftAfter validate changes n).Addressed                                 (addressed_draftAfter)
-/

namespace PluginHost

variable {γ : Type}

/-- Every slot is that of a call, and every call covers some change. -/
structure Draft.Addressed (x : Draft γ) : Prop where
  slots : ∀ e slot, x.slot? e = some slot → slot < x.calls.length
  changes : ∀ i ∈ x.calls, i.changes ≠ []

theorem Draft.addressed_empty : (Draft.empty : Draft γ).Addressed where
  slots := by
    intro e slot h
    cases h
  changes := by
    intro i hi
    cases hi

theorem Draft.Addressed.push {x : Draft γ} (h : x.Addressed) (d : Dependency γ) (op : Op)
    (pos : Nat) : (x.push ⟨d, op, [pos]⟩).Addressed where
  slots := by
    intro e slot hs
    have := h.slots e slot hs
    show slot < (x.calls ++ [_]).length
    rw [List.length_append]
    omega
  changes := by
    intro i hi
    rcases List.mem_append.1 hi with hi | hi
    · exact h.changes i hi
    · rw [List.mem_singleton.1 hi]
      exact List.cons_ne_nil _ _

theorem Draft.Addressed.extend {x : Draft γ} (h : x.Addressed) (slot : Nat) (op : Op) (pos : Nat) :
    (⟨x.calls.modify slot fun i => i.extend op pos, x.slots⟩ : Draft γ).Addressed where
  slots := by
    intro e j hj
    rw [List.length_modify]
    exact h.slots e j hj
  changes := by
    intro i hi
    obtain ⟨n, hn⟩ := List.getElem?_of_mem hi
    rw [List.getElem?_modify, Option.map_eq_map, Option.map_eq_some_iff] at hn
    obtain ⟨i', hi', rfl⟩ := hn
    split
    · exact List.append_ne_nil_of_right_ne_nil _ (List.cons_ne_nil _ _)
    · exact h.changes i' (List.mem_of_getElem? hi')

theorem Draft.Addressed.cover {x : Draft γ} (h : x.Addressed) (entry : Nat) (d : Dependency γ)
    (op : Op) (pos : Nat) : (x.cover entry d op pos).Addressed := by
  unfold Draft.cover
  cases hs : x.slot? entry with
  | some slot => exact h.extend slot op pos
  | none =>
    refine ⟨fun e slot he => ?_, (h.push d op pos).changes⟩
    rw [Draft.slot?_append, Option.or_eq_some_iff] at he
    rw [List.length_append, List.length_singleton]
    rcases he with he | ⟨-, he⟩
    · have := h.slots e slot he
      omega
    · split at he
      · cases he
        omega
      · cases he

namespace Table

variable {t : Table γ} {validate : Bool}

theorem addressed_addEntry {x : Draft γ} (h : x.Addressed) (c : Change) (pos : Nat) (root : String)
    (e : Nat) : (t.addEntry validate c pos root x e).Addressed := by
  unfold addEntry
  split
  · exact h
  · split
    · exact h
    · split
      · exact h.cover e _ c.op pos
      · split
        · exact h.push _ c.op pos
        · exact h

/-- A visit of the pass: the change at hand, the ancestor of its key, and the entry found there. -/
structure Visit where
  change : Change × Nat
  root : String
  entry : Nat

/-- All visits of the pass, in order. -/
def visits (t : Table γ) (changes : List (Change × Nat)) : List Visit :=
  changes.flatMap fun c => (Key.ancestors c.1.key).flatMap fun root =>
    (t.index.positions root).map fun e => ⟨c, root, e⟩

def addVisit (t : Table γ) (validate : Bool) (x : Draft γ) (v : Visit) : Draft γ :=
  t.addEntry validate v.change.1 v.change.2 v.root x v.entry

def draftAfter (t : Table γ) (validate : Bool) (changes : List Change) (n : Nat) : Draft γ :=
  ((t.visits changes.zipIdx).take n).foldl (t.addVisit validate) .empty

theorem commitVector_eq_draftAfter (t : Table γ) (changes : List Change) (validate : Bool) :
    t.commitVector changes validate =
      (t.draftAfter validate changes (t.visits changes.zipIdx).length).calls.mergeSort
        Invocation.precedes := by
  rw [draftAfter, List.take_length, visits, List.foldl_flatMap]
  simp only [List.foldl_flatMap, List.foldl_map]
  rfl

theorem addressed_draftAfter (t : Table γ) (validate : Bool) (changes : List Change) (n : Nat) :
    (t.draftAfter validate changes n).Addressed :=
  List.foldlRecOn _ _ Draft.addressed_empty fun _ hx v _ =>
    addressed_addEntry hx v.change.1 v.change.2 v.root v.entry

end Table

end PluginHost
