import Mathlib.Data.List.Nodup
import PluginHost.Registry

/-!
# Soundness of the plugin registry

Names are registered once, and the index holds the position of each.  So a plugin is found under its
own name and under no other.

    position? name = some pos ↔ the plugin at pos has the name        (Sound.position?_eq_some_iff)
    get? name = some p ↔ p is registered and has the name             (Sound.get?_eq_some_iff)
-/

namespace PluginHost.Registry

variable {σ ν : Type} {r : Registry σ ν} {p : Plugin σ ν}

/-- Names are distinct, and the index leads from each to its position. -/
structure Sound (r : Registry σ ν) : Prop where
  names : r.names.Nodup
  index : r.index = r.plugins.zipIdx.map fun e => (e.1.name, e.2)

theorem sound_empty : (empty : Registry σ ν).Sound where
  names := List.nodup_nil
  index := rfl

theorem mem_names (h : p ∈ r.plugins) : p.name ∈ r.names := List.mem_map_of_mem h

/-! ## Looking up -/

theorem mem_of_get? {name : String} (h : r.get? name = some p) : p ∈ r.plugins := by
  obtain ⟨pos, -, hp⟩ := Option.bind_eq_some_iff.1 h
  exact List.mem_of_getElem? hp

/-- A registered plugin is the only one of its name. -/
theorem Sound.filter_name (h : r.Sound) (hp : p ∈ r.plugins) :
    r.plugins.filter (fun q => q.name = p.name) = [p] := by
  obtain ⟨before, after, hsplit⟩ := List.append_of_mem hp
  have hn := h.names
  rw [Registry.names, hsplit, List.map_append, List.map_cons, List.nodup_middle,
    List.nodup_cons, ← List.map_append] at hn
  have hne : ∀ q ∈ before ++ after, q.name ≠ p.name := fun q hq he =>
    hn.1 (he ▸ List.mem_map_of_mem hq)
  have hb : before.filter (fun q => q.name = p.name) = [] :=
    List.filter_eq_nil_iff.2 fun q hq => by simpa using hne q (List.mem_append_left _ hq)
  have ha : after.filter (fun q => q.name = p.name) = [] :=
    List.filter_eq_nil_iff.2 fun q hq => by simpa using hne q (List.mem_append_right _ hq)
  rw [hsplit, List.filter_append, hb, List.nil_append, List.filter_cons_of_pos (by simp), ha]

theorem Sound.position?_eq (h : r.Sound) (name : String) :
    r.position? name = (r.plugins.zipIdx.find? fun e => e.1.name = name).map Prod.snd := by
  rw [position?, h.index, List.find?_map, Option.map_map]
  rfl

theorem Sound.position?_eq_some_iff (h : r.Sound) (name : String) (pos : Nat) :
    r.position? name = some pos ↔ ∃ p, r.plugins[pos]? = some p ∧ p.name = name := by
  rw [h.position?_eq, Option.map_eq_some_iff]
  constructor
  · rintro ⟨⟨p, n⟩, hf, rfl⟩
    have hn : p.name = name := by simpa using List.find?_some hf
    exact ⟨p, List.mem_zipIdx_iff_getElem?.1 (List.mem_of_find?_eq_some hf), hn⟩
  · rintro ⟨p, hp, rfl⟩
    have hm : (p, pos) ∈ r.plugins.zipIdx := List.mem_zipIdx_iff_getElem?.2 hp
    have hsome : (r.plugins.zipIdx.find? fun e => e.1.name = p.name).isSome = true :=
      List.find?_isSome.2 ⟨(p, pos), hm, by simp⟩
    obtain ⟨⟨q, n⟩, hf⟩ := Option.isSome_iff_exists.1 hsome
    have hq := List.mem_zipIdx_iff_getElem?.1 (List.mem_of_find?_eq_some hf)
    have hn : q.name = p.name := by simpa using List.find?_some hf
    refine ⟨_, hf, ?_⟩
    -- the names at both positions are the same, so the positions are
    have hlt : n < r.names.length := by
      rw [Registry.names, List.length_map]
      exact (List.getElem?_eq_some_iff.1 hq).1
    refine (List.getElem?_inj hlt h.names).1 ?_
    change r.plugins[n]? = some q at hq
    rw [Registry.names, List.getElem?_map, List.getElem?_map, hq, hp]
    exact congrArg some hn

theorem Sound.lt_of_position? (h : r.Sound) {name : String} {pos : Nat}
    (hp : r.position? name = some pos) : pos < r.plugins.length := by
  obtain ⟨p, hp, -⟩ := (h.position?_eq_some_iff name pos).1 hp
  exact (List.getElem?_eq_some_iff.1 hp).1

theorem Sound.get?_eq_some_iff (h : r.Sound) (name : String) (p : Plugin σ ν) :
    r.get? name = some p ↔ p ∈ r.plugins ∧ p.name = name := by
  rw [get?, Option.bind_eq_some_iff]
  constructor
  · rintro ⟨pos, hpos, hp⟩
    obtain ⟨q, hq, hn⟩ := (h.position?_eq_some_iff name pos).1 hpos
    obtain rfl : q = p := Option.some.inj (hq.symm.trans hp)
    exact ⟨List.mem_of_getElem? hp, hn⟩
  · rintro ⟨hp, hn⟩
    obtain ⟨pos, hpos⟩ := List.getElem?_of_mem hp
    exact ⟨pos, (h.position?_eq_some_iff name pos).2 ⟨p, hpos, hn⟩, hpos⟩

theorem Sound.contains_iff (h : r.Sound) (name : String) :
    r.contains name = true ↔ name ∈ r.names := by
  rw [contains, Option.isSome_iff_exists, Registry.names, List.mem_map]
  constructor
  · rintro ⟨pos, hpos⟩
    obtain ⟨p, hp, hn⟩ := (h.position?_eq_some_iff name pos).1 hpos
    exact ⟨p, List.mem_of_getElem? hp, hn⟩
  · rintro ⟨p, hp, hn⟩
    obtain ⟨pos, hpos⟩ := List.getElem?_of_mem hp
    exact ⟨pos, (h.position?_eq_some_iff name pos).2 ⟨p, hpos, hn⟩⟩

/-! ## Registering -/

/-- The registry with one more plugin. -/
def push (r : Registry σ ν) (p : Plugin σ ν) : Registry σ ν :=
  ⟨r.plugins ++ [p], r.index ++ [(p.name, r.plugins.length)]⟩

theorem Sound.insert_taken (h : r.Sound) (hp : p.name ∈ r.names) :
    r.insert p = .error (.duplicate p.name) := by
  rw [insert, if_pos ((h.contains_iff _).2 hp)]

theorem Sound.insert_fresh (h : r.Sound) (hp : p.name ∉ r.names) : r.insert p = .ok (r.push p) := by
  rw [insert, if_neg (fun hc => hp ((h.contains_iff _).1 hc))]
  rfl

theorem contains_push (r : Registry σ ν) (p : Plugin σ ν) (name : String) :
    (r.push p).contains name = true ↔ r.contains name = true ∨ name = p.name := by
  simp only [contains, position?, push, Option.isSome_map, List.find?_append, Option.isSome_or,
    Bool.or_eq_true, List.find?_singleton]
  refine or_congr_right ?_
  by_cases h : p.name = name
  · simp [h]
  · simp [h, Ne.symm h]

theorem names_push (r : Registry σ ν) (p : Plugin σ ν) : (r.push p).names = r.names ++ [p.name] :=
  List.map_append

theorem Sound.push (h : r.Sound) (hp : p.name ∉ r.names) : (r.push p).Sound where
  names := by
    rw [names_push]
    refine List.nodup_append.2 ⟨h.names, List.nodup_singleton _, ?_⟩
    intro a ha b hb hab
    rw [List.mem_singleton.1 hb] at hab
    exact hp (hab ▸ ha)
  index := by
    show r.index ++ [(p.name, r.plugins.length)] = _
    rw [h.index]
    show _ = ((r.plugins ++ [p]).zipIdx).map _
    rw [List.zipIdx_append, List.map_append, Nat.zero_add]
    rfl

end PluginHost.Registry
