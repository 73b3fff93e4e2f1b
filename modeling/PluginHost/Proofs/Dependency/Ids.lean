import PluginHost.Proofs.Dependency.Table

/-!
# Ids

Every registration that is granted takes the next id of the table, and the count is kept when the
table is cleared.  So an id stands for one dependency: the table finds it until it is cleared, and
nothing under that id afterwards.

    an insertion takes the next id, and is found under it                       (insert_takes_next)
    t.Answers gs t' → the ids granted go up from t.nextId to t'.nextId              (Answers.ids)
                    → what was found under older ids is found                   (Answers.get?_old)
                    → what was granted is found                                 (Answers.get?_new)
-/

namespace PluginHost

variable {γ : Type}

/-- A dependency that was asked for, in the name of a plugin, and the answer. -/
structure Registration (γ : Type) where
  owner : String
  request : Request γ
  answer : Except RegistrationError Nat

namespace Registration

/-- The id that was granted, if any. -/
def id? (g : Registration γ) : Option Nat := g.answer.toOption

/-- The dependency that was asked for, under an id. -/
def dependency (g : Registration γ) (id : Nat) : Dependency γ :=
  ⟨id, g.owner, g.request.priority, g.request.kind, g.request.key, g.request.arg, g.request.callback⟩

end Registration

namespace Table

/-- Registrations, one after another, lead from one table to another: what is granted was inserted,
and what is refused changes nothing. -/
inductive Answers : Table γ → List (Registration γ) → Table γ → Prop
  | nil (t : Table γ) : Answers t [] t
  | granted {t t' t'' : Table γ} {owner : String} {request : Request γ} {d : Dependency γ}
      {later : List (Registration γ)} : t.insert owner request = .ok (d, t') →
      Answers t' later t'' → Answers t (⟨owner, request, .ok d.id⟩ :: later) t''
  | refused {t t' : Table γ} {later : List (Registration γ)} (owner : String) (request : Request γ)
      (e : RegistrationError) : Answers t later t' →
      Answers t (⟨owner, request, .error e⟩ :: later) t'

variable {t t' : Table γ} {owner : String} {request : Request γ} {d : Dependency γ}
  {gs : List (Registration γ)} {id : Nat}

theorem get?_of_not_mem (h : ∀ e ∈ t.entries, e.id ≠ id) : t.get? id = none := by
  rw [get?, List.find?_eq_none]
  intro e he
  simpa using h e he

/-! ## One insertion -/

/-- An insertion takes the next id. -/
structure TakesNext (t : Table γ) (owner : String) (request : Request γ) (d : Dependency γ)
    (t' : Table γ) : Prop where
  dependency : d = Registration.dependency ⟨owner, request, .ok d.id⟩ d.id
  id : d.id = t.nextId
  nextId : t'.nextId = t.nextId + 1
  new : t'.get? d.id = some d
  old : ∀ id < t.nextId, t'.get? id = t.get? id

theorem insert_takes_next (ht : t.Consistent) (h : t.insert owner request = .ok (d, t')) :
    t.TakesNext owner request d t' := by
  obtain ⟨-, hd, rfl⟩ := insert_eq_ok h
  have hid : d.id = t.nextId := by rw [hd]
  have hfind : ∀ id, (⟨t.entries ++ [d], t.index.push request.key t.entries.length,
      t.nextId + 1⟩ : Table γ).get? id = (t.get? id).or (if d.id = id then some d else none) := by
    intro id
    rw [get?, List.find?_append, List.find?_singleton]
    simp [get?]
  refine ⟨hd.trans (by rw [hid]; rfl), hid, rfl, ?_, fun id hlt => ?_⟩
  · have hnone : t.get? d.id = none := get?_of_not_mem fun e he => by
      have := ht.bounded e he
      omega
    rw [hfind, hnone, Option.none_or, if_pos rfl]
  · rw [hfind, if_neg (by omega), Option.or_none]

/-! ## Many registrations -/

namespace Answers

theorem nextId_le (h : t.Answers gs t') (ht : t.Consistent) : t.nextId ≤ t'.nextId := by
  induction h with
  | nil => exact Nat.le_refl _
  | granted hi _ ih =>
    have hnext := (insert_takes_next ht hi).nextId
    have := ih (ht.insert hi)
    omega
  | refused _ _ _ _ ih => exact ih ht

/-- The ids that are granted go up, from the count before to the count after. -/
theorem ids (h : t.Answers gs t') (ht : t.Consistent) :
    (gs.filterMap Registration.id?).Pairwise (· < ·) ∧
      ∀ id ∈ gs.filterMap Registration.id?, t.nextId ≤ id ∧ id < t'.nextId := by
  induction h with
  | nil => exact ⟨.nil, by simp⟩
  | granted hi hlater ih =>
    rename_i t t₁ t' owner request d later
    have hnext := insert_takes_next ht hi
    obtain ⟨hup, hbound⟩ := ih (ht.insert hi)
    have hle := hlater.nextId_le (ht.insert hi)
    have hids : (⟨owner, request, .ok d.id⟩ :: later : List (Registration γ)).filterMap
        Registration.id? = d.id :: later.filterMap Registration.id? := rfl
    rw [hids]
    refine ⟨List.pairwise_cons.2 ⟨fun id hid => ?_, hup⟩, fun id hid => ?_⟩
    · have := (hbound id hid).1
      have := hnext.id
      have := hnext.nextId
      omega
    · have := hnext.id
      have := hnext.nextId
      rcases List.mem_cons.1 hid with rfl | hid
      · omega
      · have := hbound id hid
        omega
  | refused _ _ _ _ ih => exact ih ht

theorem get?_old (h : t.Answers gs t') (ht : t.Consistent) (hid : id < t.nextId) :
    t'.get? id = t.get? id := by
  induction h with
  | nil => rfl
  | granted hi _ ih =>
    have hnext := insert_takes_next ht hi
    rw [ih (ht.insert hi) (by rw [hnext.nextId]; omega), hnext.old id hid]
  | refused _ _ _ _ ih => exact ih ht hid

theorem get?_new (h : t.Answers gs t') (ht : t.Consistent) {g : Registration γ} (hg : g ∈ gs)
    (ha : g.answer = .ok id) : t'.get? id = some (g.dependency id) := by
  induction h with
  | nil => cases hg
  | granted hi hlater ih =>
    rcases List.mem_cons.1 hg with rfl | hg
    · have hnext := insert_takes_next ht hi
      obtain rfl := Except.ok.inj ha
      rw [hlater.get?_old (ht.insert hi) (by rw [hnext.nextId, hnext.id]; omega), hnext.new]
      exact congrArg some hnext.dependency
    · exact ih (ht.insert hi) hg
  | refused _ _ _ _ ih =>
    rcases List.mem_cons.1 hg with rfl | hg
    · cases ha
    · exact ih ht hg

end Answers

end Table

end PluginHost
