import PluginHost.Proofs.Dependency.Recast
import PluginHost.Proofs.Twins

/-!
# Tables that differ in their callbacks

Two tables are alike if they differ only in their callbacks, entry by entry by callbacks that stand in
a relation.  Both are then casts of one table, the entries of which hold pairs of callbacks, so that
whatever is done with the two comes to casts of one result.

    t, t' alike → both are casts of a table of pairs                                 (exists_pairs)
    t, t' alike → insertions, look-ups and commit vectors are alike     (insert, lookup, commitVector)
-/

namespace PluginHost

variable {γ δ : Type}

/-- The same dependency with another callback. -/
inductive Dependency.Alike (R : γ → δ → Prop) : Dependency γ → Dependency δ → Prop where
  | intro {id : Nat} {plugin : String} {priority : UInt16} {kind : Kind} {key : String}
      {arg : Option Datum} {c : γ} {c' : δ} : R c c' →
      Alike R ⟨id, plugin, priority, kind, key, arg, c⟩ ⟨id, plugin, priority, kind, key, arg, c'⟩

/-- The same request with another callback. -/
inductive Request.Alike (R : γ → δ → Prop) : Request γ → Request δ → Prop where
  | intro {kind : Dependency.Kind} {priority : UInt16} {key : String} {arg : Option Datum} {c : γ}
      {c' : δ} : R c c' → Alike R ⟨kind, priority, key, arg, c⟩ ⟨kind, priority, key, arg, c'⟩

/-- The same call of another callback. -/
inductive Invocation.Alike (R : γ → δ → Prop) : Invocation γ → Invocation δ → Prop where
  | intro {d : Dependency γ} {d' : Dependency δ} {op : Op} {changes : List Nat} :
      Dependency.Alike R d d' → Alike R ⟨d, op, changes⟩ ⟨d', op, changes⟩

/-- Entry by entry the same table with other callbacks. -/
structure Table.Alike (R : γ → δ → Prop) (t : Table γ) (t' : Table δ) : Prop where
  entries : List.Forall₂ (Dependency.Alike R) t.entries t'.entries
  index : t.index = t'.index
  nextId : t.nextId = t'.nextId

/-! ## Pairs -/

/-- Two callbacks in a relation. -/
abbrev Paired (R : γ → δ → Prop) : Type := { c : γ × δ // R c.1 c.2 }

namespace Recast

/-- The first of each pair. -/
def left (R : γ → δ → Prop) : Recast (Paired R) γ := ofCallback fun c => c.1.1

/-- The second of each pair. -/
def right (R : γ → δ → Prop) : Recast (Paired R) δ := ofCallback fun c => c.1.2

variable {R : γ → δ → Prop}

theorem alike_dependency (d : Dependency (Paired R)) :
    Dependency.Alike R ((left R).dependency d) ((right R).dependency d) := .intro d.callback.2

theorem alike_invocation (i : Invocation (Paired R)) :
    Invocation.Alike R ((left R).invocation i) ((right R).invocation i) :=
  .intro (alike_dependency i.dependency)

theorem alike_dependencies (ds : List (Dependency (Paired R))) :
    List.Forall₂ (Dependency.Alike R) (ds.map (left R).dependency)
      (ds.map (right R).dependency) := by
  rw [List.forall₂_map_left_iff, List.forall₂_map_right_iff, List.forall₂_same]
  exact fun d _ => alike_dependency d

theorem alike_table (t : Table (Paired R)) :
    Table.Alike R ((left R).table t) ((right R).table t) :=
  ⟨alike_dependencies t.entries, rfl, rfl⟩

end Recast

variable {R : γ → δ → Prop}

open Recast (left right)

theorem Dependency.Alike.exists_pair {d : Dependency γ} {d' : Dependency δ} (h : Alike R d d') :
    ∃ u, (left R).dependency u = d ∧ (right R).dependency u = d' := by
  cases h with
  | @intro id plugin priority kind key arg c c' hc =>
    exact ⟨⟨id, plugin, priority, kind, key, arg, ⟨(c, c'), hc⟩⟩, rfl, rfl⟩

theorem Request.Alike.exists_pair {q : Request γ} {q' : Request δ} (h : Alike R q q') :
    ∃ u, (left R).request u = q ∧ (right R).request u = q' := by
  cases h with
  | @intro kind priority key arg c c' hc =>
    exact ⟨⟨kind, priority, key, arg, ⟨(c, c'), hc⟩⟩, rfl, rfl⟩

theorem Dependency.exists_pairs {ds : List (Dependency γ)} {ds' : List (Dependency δ)}
    (h : List.Forall₂ (Dependency.Alike R) ds ds') :
    ∃ us : List (Dependency (Paired R)),
      us.map (left R).dependency = ds ∧ us.map (right R).dependency = ds' := by
  induction h with
  | nil => exact ⟨[], rfl, rfl⟩
  | cons hd _ ih =>
    obtain ⟨u, rfl, rfl⟩ := hd.exists_pair
    obtain ⟨us, rfl, rfl⟩ := ih
    exact ⟨u :: us, rfl, rfl⟩

namespace Table.Alike

variable {t : Table γ} {t' : Table δ}

/-- Tables that are alike are casts of one table of pairs. -/
theorem exists_pairs (h : Alike R t t') : ∃ u, (left R).table u = t ∧ (right R).table u = t' := by
  obtain ⟨entries, index, nextId⟩ := t
  obtain ⟨entries', index', nextId'⟩ := t'
  obtain ⟨he, rfl, rfl⟩ := h
  obtain ⟨us, rfl, rfl⟩ := Dependency.exists_pairs he
  exact ⟨⟨us, index, nextId⟩, rfl, rfl⟩

theorem empty : Alike R Table.empty Table.empty := ⟨.nil, rfl, rfl⟩

theorem clear (h : Alike R t t') : Alike R t.clear t'.clear := ⟨.nil, rfl, h.nextId⟩

theorem insert (h : Alike R t t') (plugin : String) {q : Request γ} {q' : Request δ}
    (hq : Request.Alike R q q') :
    Likewise Eq (Both (Dependency.Alike R) (Alike R)) (t.insert plugin q)
      (t'.insert plugin q') := by
  obtain ⟨u, rfl, rfl⟩ := h.exists_pairs
  obtain ⟨w, rfl, rfl⟩ := hq.exists_pair
  rw [Recast.insert_table, Recast.insert_table]
  cases u.insert plugin w with
  | error e => exact .error rfl
  | ok grown => exact .ok ⟨Recast.alike_dependency grown.1, Recast.alike_table grown.2⟩

theorem get? (h : Alike R t t') (id : Nat) :
    Option.Rel (Dependency.Alike R) (t.get? id) (t'.get? id) := by
  obtain ⟨u, rfl, rfl⟩ := h.exists_pairs
  rw [Recast.get?_table, Recast.get?_table]
  cases u.get? id with
  | none => exact .none
  | some d => exact .some (Recast.alike_dependency d)

theorem ofPlugin (h : Alike R t t') (plugin : String) :
    List.Forall₂ (Dependency.Alike R) (t.ofPlugin plugin) (t'.ofPlugin plugin) := by
  obtain ⟨u, rfl, rfl⟩ := h.exists_pairs
  rw [Recast.ofPlugin_table, Recast.ofPlugin_table]
  exact Recast.alike_dependencies _

theorem lookup (h : Alike R t t') (key : String) :
    List.Forall₂ (Dependency.Alike R) (t.lookup key) (t'.lookup key) := by
  obtain ⟨u, rfl, rfl⟩ := h.exists_pairs
  rw [Recast.lookup_table, Recast.lookup_table]
  exact Recast.alike_dependencies _

theorem matching (h : Alike R t t') (key : String) :
    List.Forall₂ (Dependency.Alike R) (t.matching key) (t'.matching key) := by
  obtain ⟨u, rfl, rfl⟩ := h.exists_pairs
  rw [Recast.matching_table, Recast.matching_table]
  exact Recast.alike_dependencies _

/-- The same changes ask for the same calls. -/
theorem commitVector (h : Alike R t t') (changes : List Change) (validate : Bool) :
    List.Forall₂ (Invocation.Alike R) (t.commitVector changes validate)
      (t'.commitVector changes validate) := by
  obtain ⟨u, rfl, rfl⟩ := h.exists_pairs
  have hl := (left R).commitVector_table u changes validate
  have hr := (right R).commitVector_table u changes validate
  -- neither cast touches the changes
  rw [show changes.map (left R).change = changes from List.map_id changes] at hl
  rw [show changes.map (right R).change = changes from List.map_id changes] at hr
  rw [hl, hr, List.forall₂_map_left_iff, List.forall₂_map_right_iff, List.forall₂_same]
  exact fun i _ => Recast.alike_invocation i

end Table.Alike

end PluginHost
