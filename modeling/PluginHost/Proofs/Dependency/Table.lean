import Mathlib.Data.List.Nodup
import PluginHost.Dependency.Table

/-!
# Consistency of the dependency table

A table is built from the empty one by registrations, some of them refused, and by clearing.  Along
every such history the index lists exactly the entries of each key, and ids go up.

    (build commands).Consistent                                              (consistent_build)
    e ∈ t.index.positions key ↔ entry e is a dependency on key               (Consistent.mem_positions)
    t.insert plugin r = .ok (d, t') → t.Sound → t'.Sound                     (Sound.insert)

`Sound` adds that the index knows no other keys, each once, and that all keys are well formed.
-/

namespace PluginHost

/-! ## The index -/

namespace KeyIndex

/-- Pushing changes what is found under the key pushed to, and nothing else. -/
theorem find?_map_push (slots : List (String × List Nat)) (key k : String) (pos : Nat) :
    (slots.map fun s => if s.1 = key then (s.1, s.2 ++ [pos]) else s).find? (fun s => s.1 = k) =
      (slots.find? fun s => s.1 = k).map fun s => if s.1 = key then (s.1, s.2 ++ [pos]) else s := by
  rw [List.find?_map]
  congr 2
  funext s
  simp only [Function.comp_apply]
  split <;> rfl

theorem positions_push_self (x : KeyIndex) (key : String) (pos : Nat) :
    (x.push key pos).positions key = x.positions key ++ [pos] := by
  unfold push positions
  by_cases h : (x.slots.any fun s => s.1 = key) = true
  · obtain ⟨s, hs⟩ := Option.isSome_iff_exists.1 (List.find?_isSome.2 (List.any_eq_true.1 h))
    have hk : s.1 = key := by simpa using List.find?_some hs
    rw [if_pos h, find?_map_push, hs]
    simp [hk]
  · have hn : x.slots.find? (fun s => s.1 = key) = none := by
      rw [List.find?_eq_none]
      intro s hs hk
      exact h (List.any_eq_true.2 ⟨s, hs, hk⟩)
    rw [if_neg h, List.find?_append, hn]
    simp

theorem positions_push_ne (x : KeyIndex) {key k : String} (pos : Nat) (hk : k ≠ key) :
    (x.push key pos).positions k = x.positions k := by
  unfold push positions
  by_cases h : (x.slots.any fun s => s.1 = key) = true
  · rw [if_pos h, find?_map_push]
    cases hs : x.slots.find? fun s => s.1 = k with
    | none => rfl
    | some s =>
      have hks : s.1 = k := by simpa using List.find?_some hs
      have hne : ¬ s.1 = key := by rw [hks]; exact hk
      simp only [Option.map_some, if_neg hne]
  · have hn : [(key, [pos])].find? (fun s => s.1 = k) = none := by
      rw [List.find?_singleton, if_neg (by simpa using Ne.symm hk)]
    rw [if_neg h, List.find?_append, hn, Option.or_none]

def keys (x : KeyIndex) : List String := x.slots.map Prod.fst

/-- Pushing adds a key that is new, and no other. -/
theorem keys_push (x : KeyIndex) (key : String) (pos : Nat) :
    (x.push key pos).keys = if key ∈ x.keys then x.keys else x.keys ++ [key] := by
  have hany : (x.slots.any fun s => s.1 = key) = true ↔ key ∈ x.keys := by
    simp [keys, List.any_eq_true]
  unfold push
  by_cases h : key ∈ x.keys
  · rw [if_pos (hany.2 h), if_pos h, keys, List.map_map]
    refine List.map_congr_left fun s _ => ?_
    simp only [Function.comp_apply]
    split <;> rfl
  · rw [if_neg (fun hc => h (hany.1 hc)), if_neg h, keys, List.map_append]
    rfl

end KeyIndex

namespace Table

variable {γ : Type}

/-! ## Histories -/

/-- What is done to a table. -/
inductive Command (γ : Type) where
  | insert (plugin : String) (request : Request γ)
  | clear

/-- The table after a command; a refused registration leaves it as it was. -/
def apply (t : Table γ) : Command γ → Table γ
  | .insert plugin request =>
    match t.insert plugin request with
    | .error _ => t
    | .ok (_, t) => t
  | .clear => t.clear

/-- The table after a history of commands. -/
def build (commands : List (Command γ)) : Table γ := commands.foldl apply empty

/-! ## Consistency -/

/-- The index and the ids agree with the entries. -/
structure Consistent (t : Table γ) : Prop where
  positions : ∀ key, t.index.positions key =
    (t.entries.zipIdx.filter fun e => e.1.key = key).map Prod.snd
  ids : t.entries.Pairwise fun a b => a.id < b.id
  bounded : ∀ d ∈ t.entries, d.id < t.nextId

theorem consistent_empty : (empty : Table γ).Consistent where
  positions := by intro key; rfl
  ids := List.Pairwise.nil
  bounded := by intro d hd; cases hd

theorem Consistent.clear {t : Table γ} : t.clear.Consistent where
  positions := by intro key; rfl
  ids := List.Pairwise.nil
  bounded := by intro d hd; cases hd

theorem Consistent.insert {t t' : Table γ} {plugin : String} {r : Request γ} {d : Dependency γ}
    (h : t.Consistent) (hi : t.insert plugin r = .ok (d, t')) : t'.Consistent := by
  unfold Table.insert at hi
  split at hi
  · cases hi
  · obtain ⟨rfl, rfl⟩ : _ = d ∧ _ = t' := by simpa using hi
    refine ⟨fun key => ?_, ?_, ?_⟩
    · simp only [List.zipIdx_append, List.filter_append, List.map_append]
      by_cases hk : key = r.key
      · rw [hk, KeyIndex.positions_push_self, h.positions]
        simp
      · rw [KeyIndex.positions_push_ne _ _ hk, h.positions]
        simp [Ne.symm hk]
    · refine List.pairwise_append.2 ⟨h.ids, List.pairwise_singleton _ _, ?_⟩
      intro a ha b hb
      rw [List.mem_singleton.1 hb]
      exact h.bounded a ha
    · intro a ha
      show a.id < t.nextId + 1
      rcases List.mem_append.1 ha with ha | ha
      · have := h.bounded a ha; omega
      · rw [List.mem_singleton.1 ha]; exact Nat.lt_succ_self _

theorem Consistent.apply {t : Table γ} (h : t.Consistent) (c : Command γ) :
    (t.apply c).Consistent := by
  cases c with
  | insert plugin r =>
    simp only [Table.apply]
    split
    · exact h
    · next hi => exact h.insert hi
  | clear => exact Consistent.clear

theorem consistent_build (commands : List (Command γ)) : (build commands).Consistent := by
  suffices ∀ t : Table γ, t.Consistent → (commands.foldl Table.apply t).Consistent from
    this _ consistent_empty
  induction commands with
  | nil => intro t h; exact h
  | cons c cs ih => intro t h; exact ih _ (h.apply c)

/-! ## Entries of a consistent table -/

variable {t : Table γ}

theorem Consistent.mem_positions (h : t.Consistent) (key : String) (e : Nat) :
    e ∈ t.index.positions key ↔ ∃ d, t.entries[e]? = some d ∧ d.key = key := by
  rw [h.positions, List.mem_map]
  constructor
  · rintro ⟨⟨d, n⟩, hd, rfl⟩
    obtain ⟨hm, hk⟩ := List.mem_filter.1 hd
    exact ⟨d, List.mem_zipIdx_iff_getElem?.1 hm, of_decide_eq_true hk⟩
  · rintro ⟨d, hd, hk⟩
    exact ⟨(d, e), List.mem_filter.2 ⟨List.mem_zipIdx_iff_getElem?.2 hd, decide_eq_true hk⟩, rfl⟩

theorem Consistent.nodup_positions (h : t.Consistent) (key : String) :
    (t.index.positions key).Nodup := by
  rw [h.positions]
  refine List.Nodup.sublist (List.filter_sublist.map _) ?_
  rw [List.zipIdx_map_snd]
  exact List.nodup_range'

/-- An id belongs to one entry only. -/
theorem Consistent.id_inj (h : t.Consistent) {e e' : Nat} {d d' : Dependency γ}
    (hd : t.entries[e]? = some d) (hd' : t.entries[e']? = some d') (hid : d.id = d'.id) :
    e = e' := by
  obtain ⟨he, rfl⟩ := List.getElem?_eq_some_iff.1 hd
  obtain ⟨he', rfl⟩ := List.getElem?_eq_some_iff.1 hd'
  have hp := List.pairwise_iff_getElem.1 h.ids
  rcases Nat.lt_trichotomy e e' with hlt | heq | hgt
  · have := hp e e' he he' hlt; omega
  · exact heq
  · have := hp e' e he' he hgt; omega

/-! ## Soundness -/

/-- A table is sound if it is consistent, its index has just the keys of its entries, each once, and
these keys are well formed. -/
structure Sound (t : Table γ) : Prop extends t.Consistent where
  distinct : t.index.keys.Nodup
  listed : ∀ key, key ∈ t.index.keys ↔ ∃ d ∈ t.entries, d.key = key
  wellFormed : ∀ d ∈ t.entries, Key.fault? d.key = none

theorem sound_empty : (empty : Table γ).Sound where
  toConsistent := consistent_empty
  distinct := List.nodup_nil
  listed := by intro key; simp [empty, KeyIndex.keys]
  wellFormed := by intro d hd; cases hd

theorem Sound.clear {t : Table γ} : t.clear.Sound where
  toConsistent := Consistent.clear
  distinct := List.nodup_nil
  listed := by intro key; simp [Table.clear, KeyIndex.keys]
  wellFormed := by intro d hd; cases hd

/-- What a registration does: the dependency asked for comes last. -/
theorem insert_eq_ok {t t' : Table γ} {plugin : String} {r : Request γ} {d : Dependency γ}
    (hi : t.insert plugin r = .ok (d, t')) :
    Key.fault? r.key = none ∧
      d = ⟨t.nextId, plugin, r.priority, r.kind, r.key, r.arg, r.callback⟩ ∧
      t' = ⟨t.entries ++ [d], t.index.push r.key t.entries.length, t.nextId + 1⟩ := by
  unfold Table.insert at hi
  split at hi
  · cases hi
  · next hv =>
    obtain ⟨rfl, rfl⟩ : _ = d ∧ _ = t' := by simpa using hi
    exact ⟨hv, rfl, rfl⟩

theorem Sound.insert {t t' : Table γ} {plugin : String} {r : Request γ} {d : Dependency γ}
    (h : t.Sound) (hi : t.insert plugin r = .ok (d, t')) : t'.Sound := by
  have hc := h.toConsistent.insert hi
  obtain ⟨hv, hd, rfl⟩ := insert_eq_ok hi
  have hkey : d.key = r.key := by rw [hd]
  refine ⟨hc, ?_, ?_, ?_⟩
  · rw [KeyIndex.keys_push]
    split
    · exact h.distinct
    · next hn =>
      refine List.nodup_append.2 ⟨h.distinct, List.nodup_singleton _, ?_⟩
      intro a ha b hb hab
      rw [List.mem_singleton.1 hb] at hab
      exact hn (hab ▸ ha)
  · intro key
    simp only [List.mem_append, List.mem_singleton, or_and_right, exists_or, exists_eq_left, hkey,
      KeyIndex.keys_push, ← h.listed]
    split
    · next hm =>
      refine ⟨.inl, fun hk => hk.elim id fun he => he ▸ hm⟩
    · rw [List.mem_append, List.mem_singleton, eq_comm (a := key)]
  · intro e he
    rcases List.mem_append.1 he with he | he
    · exact h.wellFormed e he
    · rw [List.mem_singleton.1 he, hkey]
      exact hv

theorem Sound.apply {t : Table γ} (h : t.Sound) (c : Command γ) : (t.apply c).Sound := by
  cases c with
  | insert plugin r =>
    simp only [Table.apply]
    split
    · exact h
    · next hi => exact h.insert hi
  | clear => exact Sound.clear

/-! ## What a plugin registers -/

/-- The table after a plugin asked for dependencies, one after another. -/
def registering (t : Table γ) (plugin : String) (requests : List (Request γ)) : Table γ :=
  requests.foldl (fun t r => t.apply (.insert plugin r)) t

theorem Sound.registering {t : Table γ} (h : t.Sound) (plugin : String)
    (requests : List (Request γ)) : (t.registering plugin requests).Sound := by
  induction requests generalizing t with
  | nil => exact h
  | cons r requests ih => exact ih (h.apply _)

/-- Whatever is new belongs to the plugin. -/
theorem mem_registering {t : Table γ} {plugin : String} {requests : List (Request γ)}
    {e : Dependency γ} (he : e ∈ (t.registering plugin requests).entries) :
    e ∈ t.entries ∨ e.plugin = plugin := by
  induction requests generalizing t with
  | nil => exact .inl he
  | cons r requests ih =>
    rcases ih he with h | h
    · simp only [Table.apply] at h
      split at h
      · exact .inl h
      · next hi =>
        obtain ⟨-, rfl, rfl⟩ := insert_eq_ok hi
        rcases List.mem_append.1 h with h | h
        · exact .inl h
        · rw [List.mem_singleton.1 h]
          exact .inr rfl
    · exact .inr h

/-- All positions in the index are those of entries. -/
theorem Consistent.lt_of_mem_positions (h : t.Consistent) {key : String} {e : Nat}
    (he : e ∈ t.index.positions key) : e < t.entries.length := by
  obtain ⟨d, hd, -⟩ := (h.mem_positions key e).1 he
  exact (List.getElem?_eq_some_iff.1 hd).1

end Table

end PluginHost
