import PluginHost.Path

/-!
# Names of files

An entry of a directory has a name without slashes, other than one point or two.  Joined to the
directory, it is the file name of the path.  A name with an extension is a stem that is not empty, a
point, and the extension, which has no point.

    (dir.join ⟨n⟩).fileName? = some n                                        (IsName.fileName?_join)
    splitLast bs = some (l, r) ↔ bs is l, a point, and no point                (splitLast_eq_some_iff)
    splitName n = (stem, some ext) ↔ Splits n stem ext                            (splitName_eq_iff)
-/

namespace PluginHost.Path

/-! ## Components -/

/-- What an entry of a directory can be called. -/
structure IsName (n : List UInt8) : Prop where
  nonempty : n ≠ []
  flat : slash ∉ n
  not_here : n ≠ [point]
  not_above : n ≠ [point, point]

instance (n : List UInt8) : Decidable (IsName n) :=
  decidable_of_iff (n ≠ [] ∧ slash ∉ n ∧ n ≠ [point] ∧ n ≠ [point, point])
    ⟨fun ⟨h₁, h₂, h₃, h₄⟩ => ⟨h₁, h₂, h₃, h₄⟩, fun ⟨h₁, h₂, h₃, h₄⟩ => ⟨h₁, h₂, h₃, h₄⟩⟩

variable {sep : UInt8} {n : List UInt8}

theorem split_ne_nil (sep : UInt8) (bs : List UInt8) : split sep bs ≠ [] := by
  cases bs with
  | nil => exact List.cons_ne_nil _ _
  | cons b bs =>
    rw [split]
    split
    · exact List.cons_ne_nil _ _
    · split <;> exact List.cons_ne_nil _ _

theorem split_of_not_mem (h : sep ∉ n) : split sep n = [n] := by
  induction n with
  | nil => rfl
  | cons b n ih =>
    obtain ⟨hb, hn⟩ := not_or.1 (mt List.mem_cons.2 h)
    rw [split, if_neg (Ne.symm hb), ih hn]

/-- A separator ends a piece. -/
theorem split_append (sep : UInt8) (l r : List UInt8) :
    split sep (l ++ sep :: r) = split sep l ++ split sep r := by
  induction l with
  | nil => simp [split]
  | cons b l ih =>
    rw [List.cons_append, split, split, ih]
    split
    · rfl
    · obtain ⟨s, ss, hs⟩ := List.exists_cons_of_ne_nil (split_ne_nil sep l)
      rw [hs]
      rfl

/-- A path below a directory ends with the path's own bytes, which start a new component. -/
theorem IsName.components_join (h : IsName n) (dir : Path) :
    ∃ above, (dir.join ⟨n⟩).components = above ++ [n] := by
  have hlast : ∀ l : List UInt8, components ⟨l ++ slash :: n⟩ = components ⟨l⟩ ++ [n] := by
    intro l
    rw [components, split_append, split_of_not_mem h.flat, List.filter_append,
      List.filter_cons_of_pos (by simp [h.nonempty, h.not_here]), List.filter_nil]
    rfl
  have hrel : ¬ isAbsolute ⟨n⟩ := by
    intro ha
    have hhead : n.head? = some slash := by simpa [isAbsolute] using ha
    exact h.flat (List.mem_of_mem_head? hhead)
  rw [join, if_neg hrel]
  split
  · next hend =>
    rcases hend with hnil | hslash
    · refine ⟨[], ?_⟩
      rw [hnil, List.nil_append, components, split_of_not_mem h.flat,
        List.filter_cons_of_pos (by simp [h.nonempty, h.not_here])]
      rfl
    · obtain ⟨l, hl⟩ := List.getLast?_eq_some_iff.1 hslash
      exact ⟨_, by rw [hl, List.append_assoc, List.singleton_append, hlast]⟩
  · exact ⟨_, hlast _⟩

theorem IsName.fileName?_join (h : IsName n) (dir : Path) : (dir.join ⟨n⟩).fileName? = some n := by
  obtain ⟨above, hc⟩ := h.components_join dir
  rw [fileName?, hc, List.getLast?_concat]
  exact if_neg h.not_above

/-! ## Stems and extensions -/

theorem splitLast_eq_none_iff (bs : List UInt8) : splitLast bs = none ↔ point ∉ bs := by
  induction bs with
  | nil => simp [splitLast]
  | cons b bs ih =>
    rw [splitLast, List.mem_cons, not_or, ← ih]
    cases splitLast bs with
    | none => simp [eq_comm]
    | some lr => simp

theorem splitLast_append {r : List UInt8} (h : point ∉ r) (l : List UInt8) :
    splitLast (l ++ point :: r) = some (l, r) := by
  induction l with
  | nil => rw [List.nil_append, splitLast, (splitLast_eq_none_iff r).2 h, if_pos rfl]
  | cons b l ih => rw [List.cons_append, splitLast, ih]

/-- The last point is the one with none behind it. -/
theorem splitLast_eq_some_iff {bs l r : List UInt8} :
    splitLast bs = some (l, r) ↔ bs = l ++ point :: r ∧ point ∉ r := by
  constructor
  · intro h
    induction bs generalizing l with
    | nil => cases h
    | cons b bs ih =>
      rw [splitLast] at h
      split at h
      · next l' r' hbs =>
        obtain ⟨rfl, rfl⟩ : b :: l' = l ∧ r' = r := by simpa using h
        obtain ⟨rfl, hr⟩ := ih hbs
        exact ⟨rfl, hr⟩
      · next hbs =>
        split at h
        · next hb =>
          obtain ⟨rfl, rfl⟩ : [] = l ∧ bs = r := by simpa using h
          exact ⟨by rw [hb, List.nil_append], (splitLast_eq_none_iff bs).1 hbs⟩
        · cases h
  · rintro ⟨rfl, h⟩
    exact splitLast_append h l

/-- A name is a stem, a point and an extension.  A point at the beginning is no such point. -/
structure Splits (name stem ext : List UInt8) : Prop where
  eq : name = stem ++ point :: ext
  stem : stem ≠ []
  ext : point ∉ ext

theorem splitName_eq_iff {name stem ext : List UInt8} :
    splitName name = (stem, some ext) ↔ Splits name stem ext := by
  constructor
  · intro h
    unfold splitName at h
    split at h
    · simp at h
    · simp at h
    · next l r hne hl =>
      obtain ⟨rfl, rfl⟩ : l = stem ∧ r = ext := by simpa using h
      obtain ⟨heq, hext⟩ := splitLast_eq_some_iff.1 hl
      exact ⟨heq, fun hnil => hne hnil, hext⟩
  · rintro ⟨rfl, hstem, hext⟩
    obtain ⟨b, bs, rfl⟩ := List.exists_cons_of_ne_nil hstem
    rw [splitName, splitLast_append hext]

theorem IsName.extension?_join_eq_some_iff (h : IsName n) (dir : Path) {ext : List UInt8} :
    (dir.join ⟨n⟩).extension? = some ext ↔ ∃ stem, Splits n stem ext := by
  rw [extension?, h.fileName?_join, Option.bind_some]
  constructor
  · exact fun he => ⟨_, splitName_eq_iff.1 (Prod.ext rfl he)⟩
  · rintro ⟨stem, hs⟩
    rw [splitName_eq_iff.2 hs]

theorem IsName.stem?_join (h : IsName n) (dir : Path) {stem ext : List UInt8}
    (hs : Splits n stem ext) : (dir.join ⟨n⟩).stem? = some stem := by
  rw [stem?, h.fileName?_join, Option.map_some, splitName_eq_iff.2 hs]

end PluginHost.Path
