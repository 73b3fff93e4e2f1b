import PluginHost.Dependency.CommitVector

/-!
# Tables and change sets in another cast

The table never looks at a callback, and of a change its vector uses the operation and the key only.
A `Recast` puts other callbacks for the callbacks, other operations for the operations, in step with
the summing up of operations, and other changes for the changes, on the same keys.  Whatever is done
with the table comes to the same before and after it.

    (r.table t).insert plugin (r.request q) = the insertion into t, recast              (insert_table)
    (r.table t).commitVector (changes.map r.change) validate
      = (t.commitVector changes validate).map r.invocation                        (commitVector_table)
-/

namespace PluginHost

/-- Other callbacks, operations and changes in place of those that are there. -/
structure Recast (γ δ : Type) where
  callback : γ → δ
  op : Op → Op
  change : Change → Change
  op_merge : ∀ a b, op (a.merge b) = (op a).merge (op b)
  op_change : ∀ c, (change c).op = op c.op
  key_change : ∀ c, (change c).key = c.key

namespace Recast

variable {γ δ : Type}

/-- Other callbacks only. -/
def ofCallback (f : γ → δ) : Recast γ δ := ⟨f, id, id, fun _ _ => rfl, fun _ => rfl, fun _ => rfl⟩

variable (r : Recast γ δ)

def dependency (d : Dependency γ) : Dependency δ :=
  ⟨d.id, d.plugin, d.priority, d.kind, d.key, d.arg, r.callback d.callback⟩

def request (q : Request γ) : Request δ := ⟨q.kind, q.priority, q.key, q.arg, r.callback q.callback⟩

def table (t : Table γ) : Table δ := ⟨t.entries.map r.dependency, t.index, t.nextId⟩

def invocation (i : Invocation γ) : Invocation δ := ⟨r.dependency i.dependency, r.op i.op, i.changes⟩

def draft (x : Draft γ) : Draft δ := ⟨x.calls.map r.invocation, x.slots⟩

/-! ## Registering and looking up -/

variable (t : Table γ)

theorem insert_table (plugin : String) (q : Request γ) :
    (r.table t).insert plugin (r.request q)
      = (t.insert plugin q).map fun grown => (r.dependency grown.1, r.table grown.2) := by
  have hkey : (r.request q).key = q.key := rfl
  rw [Table.insert, Table.insert, hkey]
  cases Key.fault? q.key with
  | some fault => rfl
  | none =>
    simp only [Except.map, table, List.length_map, List.map_append]
    rfl

theorem get?_table (id : Nat) : (r.table t).get? id = (t.get? id).map r.dependency := by
  unfold Table.get? table
  rw [List.find?_map]
  rfl

theorem ofPlugin_table (plugin : String) :
    (r.table t).ofPlugin plugin = (t.ofPlugin plugin).map r.dependency := by
  unfold Table.ofPlugin table
  rw [List.filter_map]
  rfl

theorem lookup_table (key : String) :
    (r.table t).lookup key = (t.lookup key).map r.dependency := by
  unfold Table.lookup
  rw [List.map_filterMap]
  congr 1
  funext pos
  exact List.getElem?_map

theorem matching_table (key : String) :
    (r.table t).matching key = (t.matching key).map r.dependency := by
  unfold Table.matching
  have hall : (Key.ancestors key).flatMap (r.table t).lookup
      = ((Key.ancestors key).flatMap t.lookup).map r.dependency := by
    rw [List.map_flatMap]
    congr 1
    funext root
    exact r.lookup_table t root
  rw [hall, List.filter_map, List.map_mergeSort (s := Table.precedes)]
  · rfl
  · intro d _ e _
    rfl

/-! ## The commit vector -/

theorem slot?_draft (x : Draft γ) (entry : Nat) : (r.draft x).slot? entry = x.slot? entry := rfl

theorem extend_invocation (i : Invocation γ) (op : Op) (pos : Nat) :
    (r.invocation i).extend (r.op op) pos = r.invocation (i.extend op pos) := by
  simp only [Invocation.extend, invocation, r.op_merge]

theorem push_draft (x : Draft γ) (i : Invocation γ) :
    (r.draft x).push (r.invocation i) = r.draft (x.push i) := by
  simp only [Draft.push, draft, List.map_append, List.map_cons, List.map_nil]

theorem cover_draft (x : Draft γ) (entry : Nat) (d : Dependency γ) (op : Op) (pos : Nat) :
    (r.draft x).cover entry (r.dependency d) (r.op op) pos = r.draft (x.cover entry d op pos) := by
  unfold Draft.cover
  rw [slot?_draft]
  cases x.slot? entry with
  | none =>
    simp only [draft, List.length_map, List.map_append, List.map_cons, List.map_nil]
    rfl
  | some slot =>
    simp only [draft]
    congr 1
    apply List.ext_getElem?
    intro n
    simp only [List.getElem?_map, List.getElem?_modify]
    cases x.calls[n]? with
    | none => rfl
    | some i => by_cases h : slot = n <;> simp [h, extend_invocation]

theorem addEntry_table (validate : Bool) (c : Change) (pos : Nat) (root : String) (x : Draft γ)
    (entry : Nat) :
    (r.table t).addEntry validate (r.change c) pos root (r.draft x) entry
      = r.draft (t.addEntry validate c pos root x entry) := by
  unfold Table.addEntry
  have hentry : (r.table t).entries[entry]? = t.entries[entry]?.map r.dependency :=
    List.getElem?_map
  rw [hentry, r.op_change, r.key_change]
  cases t.entries[entry]? with
  | none => rfl
  | some d =>
    have hkind : (r.dependency d).kind = d.kind := rfl
    simp only [Option.map_some]
    by_cases hv : d.kind.validate ≠ validate
    · rw [if_pos (hkind ▸ hv), if_pos hv]
    rw [if_neg (hkind ▸ hv), if_neg hv]
    by_cases ht : d.kind.tree = true
    · rw [if_pos (hkind ▸ ht), if_pos ht]
      exact r.cover_draft x entry d c.op pos
    rw [if_neg (hkind ▸ ht), if_neg ht]
    by_cases hr : root = c.key
    · rw [if_pos hr, if_pos hr]
      exact r.push_draft x ⟨d, c.op, [pos]⟩
    · rw [if_neg hr, if_neg hr]

/-- What is done in step with a recast, one item after another, comes to the same. -/
theorem foldl_draft {α β : Type} (f : Draft δ → α → Draft δ) (g : Draft γ → β → Draft γ)
    (p : β → α) (h : ∀ x b, f (r.draft x) (p b) = r.draft (g x b)) (bs : List β) (x : Draft γ) :
    (bs.map p).foldl f (r.draft x) = r.draft (bs.foldl g x) := by
  induction bs generalizing x with
  | nil => rfl
  | cons b bs ih => rw [List.map_cons, List.foldl_cons, List.foldl_cons, h, ih]

theorem addChange_table (validate : Bool) (x : Draft γ) (c : Change × Nat) :
    (r.table t).addChange validate (r.draft x) (r.change c.1, c.2)
      = r.draft (t.addChange validate x c) := by
  unfold Table.addChange
  have hroot : ∀ x root,
      (t.index.positions root).foldl ((r.table t).addEntry validate (r.change c.1) c.2 root)
          (r.draft x)
        = r.draft ((t.index.positions root).foldl (t.addEntry validate c.1 c.2 root) x) := by
    intro x root
    have h := r.foldl_draft _ _ id (r.addEntry_table t validate c.1 c.2 root)
      (t.index.positions root) x
    rwa [List.map_id] at h
  have h := r.foldl_draft
    (fun x root => (t.index.positions root).foldl
      ((r.table t).addEntry validate (r.change c.1) c.2 root) x)
    _ id hroot (Key.ancestors c.1.key) x
  rw [List.map_id] at h
  rw [r.key_change]
  exact h

theorem precedes_invocation (i j : Invocation γ) :
    (r.invocation i).precedes (r.invocation j) = i.precedes j := rfl

/-- The vector of other changes, with other callbacks, is the vector, recast. -/
theorem commitVector_table (changes : List Change) (validate : Bool) :
    (r.table t).commitVector (changes.map r.change) validate
      = (t.commitVector changes validate).map r.invocation := by
  have hdraft := r.foldl_draft _ _ (fun c : Change × Nat => (r.change c.1, c.2))
    (r.addChange_table t validate) changes.zipIdx .empty
  unfold Table.commitVector
  rw [List.map_mergeSort (s := Invocation.precedes), List.zipIdx_map]
  · congr 1
    exact congrArg Draft.calls hdraft
  · intro i _ j _
    exact (r.precedes_invocation i j).symm

end Recast

end PluginHost
