import Mathlib.Data.List.Permutation
import PluginHost.ChangeView
import PluginHost.Proofs.Dependency.CommitVector

/-!
# What a callback sees

A call of the commit vector names the changes it covers by their positions, and a view is put
together from these, from the operation that sums them up, and from the first of them on the
dependency's own key.

    the changes shown are those at the positions of the call, none dropped         (lists_of_mem)
    on a key: the one change to it, and its values                           (showsChange_of_mem)
    on a subtree: all changes in it, and the values of one to its root, if there is one
                                                  (changes_of_subtree, showsRoot_ofInvocation)
    all together, for every call of a commit vector                                (view_of_call)

Both values of a subtree are those of the first change to its root.  So what lies before is what was
there before all changes, but what comes after is what was there after all of them only where the
last change to the root leaves what the first left.            (values_of_first_root_change)
-/

namespace PluginHost

variable {γ : Type}

/-! ## Covered changes -/

/-- Items listed with their positions are found there. -/
theorem map_getElem?_positions {α : Type} {l : List α} {own : List (α × Nat)}
    (h : ∀ e ∈ own, l[e.2]? = some e.1) :
    (own.map Prod.snd).map (fun pos => l[pos]?) = (own.map Prod.fst).map some := by
  rw [List.map_map, List.map_map]
  exact List.map_congr_left h

/-- The changes that concern a dependency, with their positions. -/
def Dependency.ownChanges (d : Dependency γ) (changes : List Change) : List (Change × Nat) :=
  changes.zipIdx.filter fun c => d.matchesKey c.1.key

namespace Dependency

variable {d : Dependency γ} {changes : List Change}

theorem mem_ownChanges {c : Change × Nat} :
    c ∈ d.ownChanges changes ↔ changes[c.2]? = some c.1 ∧ d.matchesKey c.1.key = true := by
  rw [ownChanges, List.mem_filter, List.mem_zipIdx_iff_getElem?]

theorem map_fst_ownChanges (d : Dependency γ) (changes : List Change) :
    (d.ownChanges changes).map Prod.fst = changes.filter fun c => d.matchesKey c.key := by
  have h := List.filter_map (f := Prod.fst) (p := fun c : Change => d.matchesKey c.key)
    (l := changes.zipIdx)
  rw [List.zipIdx_map_fst] at h
  exact h.symm

theorem pairwise_ownChanges (d : Dependency γ) (changes : List Change) :
    ((d.ownChanges changes).map Prod.snd).Pairwise (· < ·) :=
  List.pairwise_map.2 ((Table.pairwise_zipIdx changes).filter _)

end Dependency

namespace Table

variable {t : Table γ} {changes : List Change} {validate : Bool} {i : Invocation γ}

/-- A call on a key covers one change to it, with the operation of that change. -/
theorem Consistent.covers_change (ht : t.Consistent) (hi : i ∈ t.commitVector changes validate)
    (hk : i.dependency.kind.tree = false) :
    ∃ pos c, changes[pos]? = some c ∧ c.key = i.dependency.key ∧ i.op = c.op ∧ i.changes = [pos] := by
  obtain ⟨d, -, hw⟩ := List.mem_flatMap.1 ((commitVector_perm ht validate changes).mem_iff.1 hi)
  obtain rfl := (Dependency.mem_callsFor hw).1
  rw [Dependency.wanted, Dependency.callsFor, hk, if_neg Bool.false_ne_true] at hw
  obtain ⟨c, hc, hic⟩ := List.mem_map.1 hw
  obtain ⟨hpos, hm⟩ := Dependency.mem_ownChanges.1 hc
  rw [Dependency.matchesKey, hk, if_neg Bool.false_ne_true, decide_eq_true_eq] at hm
  refine ⟨c.2, c.1, hpos, hm.symm, ?_, ?_⟩ <;> rw [← hic]

/-- A call on a subtree covers all changes in it. -/
theorem Consistent.covers_subtree (ht : t.Consistent) (hi : i ∈ t.commitVector changes validate)
    (hk : i.dependency.kind.tree = true) :
    i.changes = (i.dependency.ownChanges changes).map Prod.snd := by
  obtain ⟨d, -, hw⟩ := List.mem_flatMap.1 ((commitVector_perm ht validate changes).mem_iff.1 hi)
  obtain rfl := (Dependency.mem_callsFor hw).1
  rw [Dependency.wanted, Dependency.callsFor, if_pos hk] at hw
  split at hw
  · cases hw
  · have h := congrArg Invocation.changes (List.mem_singleton.1 hw)
    exact h

end Table

/-! ## What a view shows -/

namespace ChangeView

/-- The changes shown are those at some positions, in order and none dropped. -/
structure Lists (v : ChangeView) (tx : Transaction) (positions : List Nat) : Prop where
  found : positions.map (fun pos => tx.changes[pos]?) = v.changes.map some
  ascending : positions.Pairwise (· < ·)

/-- The key is shown as it was before unless it is added, and as it is after unless it is deleted. -/
structure ShowsKey (v : ChangeView) (key : String) (op : Op) : Prop where
  source : v.sourceKey = if op = .add then none else some key
  target : v.targetKey = if op = .delete then none else some key

/-- The view of one change, with its values. -/
structure ShowsChange (v : ChangeView) (c : Change) : Prop where
  changes : v.changes = [c]
  source : v.sourceValues = if c.op = .add then none else some c.source
  target : v.targetValues = if c.op = .delete then none else some c.target

/-- The view of a subtree: values are shown if the root itself is changed, and are then those of such
a change. -/
structure ShowsRoot (v : ChangeView) (root : String) (op : Op) : Prop where
  source_iff : v.sourceValues.isSome = true ↔ op ≠ .add ∧ ∃ c ∈ v.changes, c.key = root
  target_iff : v.targetValues.isSome = true ↔ op ≠ .delete ∧ ∃ c ∈ v.changes, c.key = root
  source : ∀ vs, v.sourceValues = some vs → ∃ c ∈ v.changes, c.key = root ∧ vs = c.source
  target : ∀ vs, v.targetValues = some vs → ∃ c ∈ v.changes, c.key = root ∧ vs = c.target

variable {tx : Transaction} {i : Invocation γ} {own : List Change}

theorem showsKey_ofInvocation (tx : Transaction) (i : Invocation γ) :
    (ofInvocation tx i).ShowsKey i.dependency.key i.op := ⟨rfl, rfl⟩

theorem changes_of_found (h : i.changes.map (fun pos => tx.changes[pos]?) = own.map some) :
    (ofInvocation tx i).changes = own := by
  have hid := congrArg (List.filterMap id) h
  rw [List.filterMap_map, List.filterMap_map] at hid
  exact hid.trans List.filterMap_some

/-- The change whose values are shown: the first one covered on the dependency's own key. -/
theorem sourceValues_eq (tx : Transaction) (i : Invocation γ) :
    (ofInvocation tx i).sourceValues = if i.op = .add then none
      else ((ofInvocation tx i).changes.find? fun c => c.key = i.dependency.key).map Change.source :=
  rfl

theorem targetValues_eq (tx : Transaction) (i : Invocation γ) :
    (ofInvocation tx i).targetValues = if i.op = .delete then none
      else ((ofInvocation tx i).changes.find? fun c => c.key = i.dependency.key).map Change.target :=
  rfl

/-- A call that covers one change, to the dependency's own key, shows that change. -/
theorem showsChange_of_singleton {c : Change} (hc : (ofInvocation tx i).changes = [c])
    (hkey : c.key = i.dependency.key) (hop : i.op = c.op) : (ofInvocation tx i).ShowsChange c where
  changes := hc
  source := by simp [sourceValues_eq, hc, hkey, hop]
  target := by simp [targetValues_eq, hc, hkey, hop]

theorem isSome_find?_key_iff (own : List Change) (key : String) :
    (own.find? fun c => c.key = key).isSome = true ↔ ∃ c ∈ own, c.key = key := by
  simp [List.find?_isSome]

theorem mem_of_find?_key {key : String} {c : Change}
    (h : (own.find? fun c => c.key = key) = some c) : c ∈ own ∧ c.key = key :=
  ⟨List.mem_of_find?_eq_some h, by simpa using List.find?_some h⟩

/-- Whatever changes are shown, the values are those of one to the dependency's own key. -/
theorem showsRoot_ofInvocation (tx : Transaction) (i : Invocation γ) :
    (ofInvocation tx i).ShowsRoot i.dependency.key i.op where
  source_iff := by
    rw [sourceValues_eq, ← isSome_find?_key_iff]
    split <;> simp [*]
  target_iff := by
    rw [targetValues_eq, ← isSome_find?_key_iff]
    split <;> simp [*]
  source := by
    intro vs hvs
    rw [sourceValues_eq] at hvs
    split at hvs
    · cases hvs
    · obtain ⟨c, hc, rfl⟩ := Option.map_eq_some_iff.1 hvs
      obtain ⟨hm, hkey⟩ := mem_of_find?_key hc
      exact ⟨c, hm, hkey, rfl⟩
  target := by
    intro vs hvs
    rw [targetValues_eq] at hvs
    split at hvs
    · cases hvs
    · obtain ⟨c, hc, rfl⟩ := Option.map_eq_some_iff.1 hvs
      obtain ⟨hm, hkey⟩ := mem_of_find?_key hc
      exact ⟨c, hm, hkey, rfl⟩

/-! ## Calls of a commit vector -/

section
variable {t : Table γ} {validate : Bool}

/-- A call on a key shows one change to it. -/
theorem showsChange_of_mem (ht : t.Consistent) (hi : i ∈ t.commitVector tx.changes validate)
    (hk : i.dependency.kind.tree = false) :
    ∃ c, c.key = i.dependency.key ∧ i.op = c.op ∧ (ofInvocation tx i).ShowsChange c := by
  obtain ⟨pos, c, hpos, hkey, hop, hcs⟩ := ht.covers_change hi hk
  have hshown : (ofInvocation tx i).changes = [c] := changes_of_found (by rw [hcs]; simp [hpos])
  exact ⟨c, hkey, hop, showsChange_of_singleton hshown hkey hop⟩

/-- A call on a subtree shows all changes in it. -/
theorem changes_of_subtree (ht : t.Consistent) (hi : i ∈ t.commitVector tx.changes validate)
    (hk : i.dependency.kind.tree = true) :
    (ofInvocation tx i).changes
      = tx.changes.filter fun c => Key.covers i.dependency.key c.key := by
  have hown : tx.changes.filter (fun c => i.dependency.matchesKey c.key)
      = tx.changes.filter fun c => Key.covers i.dependency.key c.key := by
    simp only [Dependency.matchesKey, hk, if_true]
  rw [← hown, ← Dependency.map_fst_ownChanges]
  refine changes_of_found ?_
  rw [ht.covers_subtree hi hk]
  exact map_getElem?_positions fun e he => (Dependency.mem_ownChanges.1 he).1

/-- No change that a call covers is dropped from its view. -/
theorem lists_of_mem (ht : t.Consistent) (hi : i ∈ t.commitVector tx.changes validate) :
    (ofInvocation tx i).Lists tx i.changes := by
  cases hk : i.dependency.kind.tree with
  | false =>
    obtain ⟨pos, c, hpos, -, -, hcs⟩ := ht.covers_change hi hk
    have hfound : i.changes.map (fun pos => tx.changes[pos]?) = [c].map some := by
      rw [hcs]
      simp [hpos]
    rw [← changes_of_found hfound] at hfound
    exact ⟨hfound, hcs ▸ List.pairwise_singleton _ _⟩
  | true =>
    have hfound : i.changes.map (fun pos => tx.changes[pos]?)
        = ((i.dependency.ownChanges tx.changes).map Prod.fst).map some := by
      rw [ht.covers_subtree hi hk]
      exact map_getElem?_positions fun e he => (Dependency.mem_ownChanges.1 he).1
    rw [← changes_of_found hfound] at hfound
    refine ⟨hfound, ?_⟩
    rw [ht.covers_subtree hi hk]
    exact i.dependency.pairwise_ownChanges tx.changes

end

/-- **What a callback sees**, after every history of the table, for every call that a transaction asks
for: the changes that the call covers, its key and values before and after, the databases of the
transaction and the argument of the dependency. -/
theorem view_of_call (commands : List (Table.Command γ)) (tx : Transaction) (validate : Bool)
    (i : Invocation γ) (hi : i ∈ (Table.build commands).commitVector tx.changes validate) :
    let d := i.dependency
    let v := ofInvocation tx i
    v.Lists tx i.changes ∧ v.ShowsKey d.key i.op ∧
    (d.kind.tree = false → ∃ c, c.key = d.key ∧ i.op = c.op ∧ v.ShowsChange c) ∧
    (d.kind.tree = true →
      v.changes = tx.changes.filter (fun c => Key.covers d.key c.key) ∧ v.ShowsRoot d.key i.op) ∧
    v.sourceDb = tx.source ∧ v.targetDb = tx.target ∧ v.arg = d.arg := by
  have ht := Table.consistent_build commands
  refine ⟨lists_of_mem ht hi, showsKey_ofInvocation tx i, showsChange_of_mem ht hi, fun hk => ?_,
    rfl, rfl, rfl⟩
  exact ⟨changes_of_subtree ht hi hk, showsRoot_ofInvocation tx i⟩

/-! ### A house and its door -/

/-- A house with all that is in it, and its door; a key with an empty segment is refused. -/
def house : List (Table.Command Unit) :=
  [.insert "host" ⟨.subtree, 1, "house", some (.u32 7), ()⟩,
    .insert "host" ⟨.key, 2, "house..", none, ()⟩,
    .insert "host" ⟨.key, 2, "house.door", none, ()⟩]

/-- What is known of something painted. -/
def painted (color : String) : Values := [("color", .string color)]

/-- The house is painted twice, and its door is taken out. -/
def repaint : Transaction :=
  .fresh 1 "running" "candidate"
    [.changed "house" (painted "red") (painted "blue"), .deleted "house.door" (painted "red"),
      .added "house..attic" [], .added "barn" [],
      .changed "house" (painted "blue") (painted "green")]

def houseCall : Invocation Unit :=
  ⟨⟨0, "host", 1, .subtree, "house", some (.u32 7), ()⟩, .change, [0, 1, 2, 4]⟩

def doorCall : Invocation Unit :=
  ⟨⟨1, "host", 2, .key, "house.door", none, ()⟩, .delete, [1]⟩

theorem commitVector_repaint :
    (Table.build house).commitVector repaint.changes false = [houseCall, doorCall] := by
  cbv

theorem view_of_call_repaint :
    let vector := (Table.build house).commitVector repaint.changes false
    let v := ofInvocation repaint houseCall
    let w := ofInvocation repaint doorCall
    houseCall ∈ vector ∧ doorCall ∈ vector ∧ v.Lists repaint [0, 1, 2, 4] ∧
    v.changes = repaint.changes.filter (fun c => Key.covers "house" c.key) ∧
    v.ShowsRoot "house" .change ∧ v.arg = some (.u32 7) ∧
    ∃ c, c.key = "house.door" ∧ .delete = c.op ∧ w.ShowsChange c := by
  have hhouse : houseCall ∈ (Table.build house).commitVector repaint.changes false := by
    simp [commitVector_repaint]
  have hdoor : doorCall ∈ (Table.build house).commitVector repaint.changes false := by
    simp [commitVector_repaint]
  obtain ⟨hlists, -, -, hroot, -, -, harg⟩ := view_of_call house repaint false houseCall hhouse
  obtain ⟨-, -, hchange, -⟩ := view_of_call house repaint false doorCall hdoor
  exact ⟨hhouse, hdoor, hlists, (hroot rfl).1, (hroot rfl).2, harg, hchange rfl⟩

/-! ## Changes to the root of a subtree -/

/-- A view spans changes: it shows what was there before the first of them, and what is there after
the last. -/
structure Spans (v : ChangeView) (own : List Change) : Prop where
  source : ∀ vs, v.sourceValues = some vs → own.head?.map Change.source = some vs
  target : ∀ vs, v.targetValues = some vs → own.getLast?.map Change.target = some vs

section
variable {t : Table γ} {validate : Bool}

theorem find?_root_of_subtree (ht : t.Consistent) (hi : i ∈ t.commitVector tx.changes validate)
    (hk : i.dependency.kind.tree = true) :
    ((ofInvocation tx i).changes.find? fun c => c.key = i.dependency.key)
      = (tx.changes.filter fun c => c.key = i.dependency.key).head? := by
  rw [changes_of_subtree ht hi hk, List.find?_filter, List.head?_filter]
  congr 1
  funext c
  by_cases hc : c.key = i.dependency.key
  · simp [hc, Key.covers_self]
  · simp [hc]

end

/-- Both values that a call on a subtree shows are those of the first change to the root.  So it spans
all changes to the root just if it shows no values after them, or the last leaves what the first
left. -/
theorem values_of_first_root_change (commands : List (Table.Command γ)) (tx : Transaction)
    (validate : Bool) (i : Invocation γ)
    (hi : i ∈ (Table.build commands).commitVector tx.changes validate)
    (hk : i.dependency.kind.tree = true) :
    let v := ofInvocation tx i
    let own := tx.changes.filter fun c => c.key = i.dependency.key
    v.sourceValues = (if i.op = .add then none else own.head?.map Change.source) ∧
    v.targetValues = (if i.op = .delete then none else own.head?.map Change.target) ∧
    (v.Spans own ↔
      i.op = .delete ∨ own.getLast?.map Change.target = own.head?.map Change.target) := by
  intro v own
  have hfirst := find?_root_of_subtree (Table.consistent_build commands) hi hk
  have hsource : v.sourceValues = if i.op = .add then none else own.head?.map Change.source := by
    rw [← hfirst]
    exact sourceValues_eq tx i
  have htarget : v.targetValues = if i.op = .delete then none else own.head?.map Change.target := by
    rw [← hfirst]
    exact targetValues_eq tx i
  refine ⟨hsource, htarget, ?_, fun h => ⟨?_, ?_⟩⟩
  · intro h
    refine or_iff_not_imp_left.2 fun hop => ?_
    rw [if_neg hop] at htarget
    cases hhead : own.head?.map Change.target with
    | none =>
      have hown : own = [] := by simpa using hhead
      rw [hown]
      rfl
    | some vs => exact h.target vs (htarget.trans hhead)
  · intro vs hvs
    rw [hsource] at hvs
    split at hvs
    · cases hvs
    · exact hvs
  · intro vs hvs
    rw [htarget] at hvs
    split at hvs
    · cases hvs
    · next hop => exact (h.resolve_left hop).trans hvs

/-- The house is painted back and forth, and in the end in the color it was first painted in. -/
def undecided : Transaction :=
  .fresh 2 "running" "candidate"
    [.changed "house" (painted "red") (painted "blue"),
      .changed "house" (painted "blue") (painted "green"),
      .changed "house" (painted "green") (painted "blue")]

theorem values_of_first_root_change_undecided :
    let call : Invocation Unit := ⟨houseCall.dependency, .change, [0, 1, 2]⟩
    let v := ofInvocation undecided call
    call ∈ (Table.build house).commitVector undecided.changes false ∧
    call.dependency.kind.tree = true ∧
    v.sourceValues = some (painted "red") ∧ v.targetValues = some (painted "blue") ∧
    v.Spans undecided.changes := by
  have hcall : ⟨houseCall.dependency, .change, [0, 1, 2]⟩ ∈
      (Table.build house).commitVector undecided.changes false := by
    have hvector : (Table.build house).commitVector undecided.changes false
        = [⟨houseCall.dependency, .change, [0, 1, 2]⟩] := by cbv
    simp [hvector]
  obtain ⟨hsource, htarget, hspans⟩ :=
    values_of_first_root_change house undecided false _ hcall rfl
  exact ⟨hcall, rfl, hsource, htarget, hspans.2 (.inr rfl)⟩

/-- Where the house is painted twice, its call does not show the color that it has in the end. -/
theorem not_spans_repaint :
    houseCall ∈ (Table.build house).commitVector repaint.changes false ∧
    houseCall.dependency.kind.tree = true ∧
    (repaint.changes.filter fun c => c.key = houseCall.dependency.key)
      = [.changed "house" (painted "red") (painted "blue"),
        .changed "house" (painted "blue") (painted "green")] ∧
    (ofInvocation repaint houseCall).targetValues = some (painted "blue") ∧
    ¬ (ofInvocation repaint houseCall).Spans
      (repaint.changes.filter fun c => c.key = houseCall.dependency.key) := by
  refine ⟨by simp [commitVector_repaint], rfl, rfl, rfl, fun h => ?_⟩
  have hlast : some (painted "green") = some (painted "blue") := h.target _ rfl
  simp [painted] at hlast

end ChangeView

end PluginHost
