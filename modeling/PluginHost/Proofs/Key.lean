import PluginHost.Key

/-!
# Ancestors and subtrees of keys

Each of the routines on keys says the same in its own way: `after?` cuts off a beginning, `parent?`
cuts at the last separator, and `ancestors` repeats that.  Keys may be any text here.

    after? root cs = some rest ↔ cs = root ++ rest                     (after?_eq_some_iff)
    parent? cs = some p ↔ cs is p, a separator, and no separator       (parent?_eq_some_iff)
    root ∈ ancestors key ↔ covers root key                             (mem_ancestors_iff)
    ancestors key has no key twice                                     (nodup_ancestors)
-/

namespace PluginHost.Key

/-! ## Subtrees -/

theorem after?_eq_some_iff (root cs rest : List Char) :
    after? root cs = some rest ↔ cs = root ++ rest := by
  induction root generalizing cs with
  | nil => simp [after?]
  | cons r rs ih =>
    cases cs with
    | nil => simp [after?]
    | cons c cs =>
      unfold after?
      split
      · next h => rw [ih, h, List.cons_append, List.cons.injEq]; simp
      · next h => simp [Ne.symm h]

/-- A subtree holds its root and what continues the root with a separator. -/
theorem coversChars_iff (root cs : List Char) :
    coversChars root cs = true ↔ cs = root ∨ ∃ rest, cs = root ++ separator :: rest := by
  unfold coversChars
  split
  · next h =>
    have hn : ∀ rest, cs ≠ root ++ rest := by
      intro rest hc
      rw [(after?_eq_some_iff root cs rest).2 hc] at h
      cases h
    constructor
    · intro hf; cases hf
    · rintro (h | ⟨rest, h⟩)
      · exact absurd h (by simpa using hn [])
      · exact absurd h (hn _)
  · next h =>
    rw [after?_eq_some_iff] at h
    simp [h]
  · next c rest h =>
    rw [after?_eq_some_iff] at h
    subst h
    simp

/-! ## Ancestors -/

theorem parent?_eq_none_iff (cs : List Char) : parent? cs = none ↔ separator ∉ cs := by
  induction cs with
  | nil => simp [parent?]
  | cons c cs ih =>
    unfold parent?
    split
    · next p hp =>
      have hm : separator ∈ cs := by
        apply Classical.byContradiction
        intro hn
        rw [ih.2 hn] at hp
        cases hp
      simp [hm]
    · next hp =>
      have hn := ih.1 hp
      split
      · next hc => simp [hc]
      · next hc => simp [hn, Ne.symm hc]

theorem parent?_append (p s : List Char) (hs : separator ∉ s) :
    parent? (p ++ separator :: s) = some p := by
  induction p with
  | nil =>
    have hn := (parent?_eq_none_iff s).2 hs
    simp [parent?, hn]
  | cons c p ih => simp [parent?, ih]

/-- The parent is what stands before the last separator. -/
theorem parent?_eq_some_iff (cs p : List Char) :
    parent? cs = some p ↔ ∃ s, separator ∉ s ∧ cs = p ++ separator :: s := by
  constructor
  · intro h
    induction cs generalizing p with
    | nil => simp [parent?] at h
    | cons c cs ih =>
      unfold parent? at h
      split at h
      · next q hq =>
        obtain rfl : c :: q = p := by simpa using h
        obtain ⟨s, hs, hcs⟩ := ih q hq
        exact ⟨s, hs, by rw [hcs, List.cons_append]⟩
      · next hq =>
        split at h
        · next hc =>
          obtain rfl : [] = p := by simpa using h
          exact ⟨cs, (parent?_eq_none_iff cs).1 hq, by rw [hc, List.nil_append]⟩
        · cases h
  · rintro ⟨s, hs, rfl⟩
    exact parent?_append p s hs

/-- What covers a key of several segments is the key itself or covers its parent. -/
theorem coversChars_parent (root p s : List Char) (hs : separator ∉ s) :
    coversChars root (p ++ separator :: s) = true ↔
      root = p ++ separator :: s ∨ coversChars root p = true := by
  rw [coversChars_iff, coversChars_iff]
  constructor
  · rintro (h | ⟨rest, h⟩)
    · exact Or.inl h.symm
    · right
      rcases List.append_eq_append_iff.1 h with ⟨a, ha, hrest⟩ | ⟨a, ha, hrest⟩
      · -- the root is at least as long as the parent: only the parent itself ends at a separator
        cases a with
        | nil => left; simpa using ha.symm
        | cons c a =>
          rw [List.cons_append, List.cons.injEq] at hrest
          exact absurd (by rw [hrest.2]; simp) hs
      · cases a with
        | nil => left; simpa using ha
        | cons c a =>
          rw [List.cons_append, List.cons.injEq] at hrest
          right
          exact ⟨a, by rw [ha, hrest.1]⟩
  · rintro (h | h | ⟨rest, h⟩)
    · exact Or.inl h.symm
    · exact Or.inr ⟨s, by rw [h]⟩
    · exact Or.inr ⟨rest ++ separator :: s, by rw [h]; simp⟩

theorem ancestorsChars_root {cs : List Char} (h : parent? cs = none) :
    ancestorsChars cs = [cs] := by
  rw [ancestorsChars, h]

theorem ancestorsChars_child {cs p : List Char} (h : parent? cs = some p) :
    ancestorsChars cs = cs :: ancestorsChars p := by
  rw [ancestorsChars, h]

theorem mem_ancestorsChars_iff (root cs : List Char) :
    root ∈ ancestorsChars cs ↔ coversChars root cs = true := by
  induction cs using ancestorsChars.induct with
  | case1 cs ih =>
    cases h : parent? cs with
    | none =>
      rw [ancestorsChars_root h, List.mem_singleton, coversChars_iff]
      have hn := (parent?_eq_none_iff cs).1 h
      constructor
      · intro hr; exact Or.inl hr.symm
      · rintro (hr | ⟨rest, hr⟩)
        · exact hr.symm
        · exact absurd (by rw [hr]; simp) hn
    | some p =>
      obtain ⟨s, hs, hcs⟩ := (parent?_eq_some_iff cs p).1 h
      rw [ancestorsChars_child h, List.mem_cons, ih p h, hcs, coversChars_parent root p s hs]

/-- The nearest ancestor comes first: each is longer than all behind it. -/
theorem pairwise_ancestorsChars (cs : List Char) :
    (ancestorsChars cs).Pairwise fun a b => b.length < a.length := by
  induction cs using ancestorsChars.induct with
  | case1 cs ih =>
    cases h : parent? cs with
    | none => rw [ancestorsChars_root h]; simp
    | some p =>
      rw [ancestorsChars_child h, List.pairwise_cons]
      refine ⟨fun a ha => ?_, ih p h⟩
      have hp := length_parent? h
      rw [mem_ancestorsChars_iff, coversChars_iff] at ha
      rcases ha with rfl | ⟨rest, rfl⟩
      · exact hp
      · rw [List.length_append] at hp; omega

/-! ## On texts -/

theorem mem_ancestors_iff (root key : String) : root ∈ ancestors key ↔ covers root key = true := by
  unfold ancestors covers
  rw [← mem_ancestorsChars_iff, List.mem_map]
  constructor
  · rintro ⟨cs, hcs, rfl⟩
    rwa [String.toList_ofList]
  · intro h
    exact ⟨root.toList, h, String.ofList_toList⟩

theorem nodup_ancestors (key : String) : (ancestors key).Nodup := by
  unfold ancestors
  rw [List.Nodup, List.pairwise_map]
  refine (pairwise_ancestorsChars key.toList).imp ?_
  intro a b hab he
  rw [String.ofList_injective he] at hab
  omega

theorem covers_self (key : String) : covers key key = true := by
  rw [covers, coversChars_iff]
  exact Or.inl rfl

end PluginHost.Key
