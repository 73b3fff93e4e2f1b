import Mathlib.Data.List.Infix
import PluginHost.Proofs.Key

/-!
# Keys by their segments

Three routines look at a key character by character: `covers` cuts off a beginning, `ancestors`
cuts at the last separator as long as there is one, and `fault?` looks at both ends and between.
All three follow from the segments of a key, which any text has, whatever stands in it.

    covers root key ↔ the segments of root begin those of key            (covers_iff_parts_prefix)
    ancestors key: the beginnings of its segments, put together, longest first      (ancestors_eq)
    going to the parent again and again gives the ancestors and stops         (getElem?_ancestors)
    key is well formed ↔ none of its segments is empty                      (fault?_eq_none_iff)
-/

namespace PluginHost.Key

/-- The segments of a key, as texts. -/
def parts (key : String) : List String := (key.split separator).toList.map String.Slice.copy

/-- The key with given segments. -/
def ofParts (segments : List String) : String := ".".intercalate segments

/-! ## Segments -/

theorem parts_eq (key : String) : parts key = (key.toList.splitOn separator).map String.ofList :=
  String.toList_split_char

theorem ofParts_map_ofList (segments : List (List Char)) :
    ofParts (segments.map String.ofList) = String.ofList ([separator].intercalate segments) := by
  have hlists : (segments.map String.ofList).map String.toList = segments := by
    rw [List.map_map]
    exact List.map_id'' (fun _ => String.toList_ofList) segments
  rw [← String.toList_inj, String.toList_ofList, ofParts, String.toList_intercalate, hlists]
  rfl

theorem ofParts_parts (key : String) : ofParts (parts key) = key := by
  rw [parts_eq, ofParts_map_ofList, List.intercalate_splitOn, String.ofList_toList]

theorem parts_ne_nil (key : String) : parts key ≠ [] := by
  rw [parts_eq]
  intro h
  exact List.splitOn_ne_nil _ _ (List.map_eq_nil_iff.1 h)

/-- The segments that `segments` gives are those of the library. -/
theorem segments_eq (cs : List Char) : segments cs = cs.splitOn separator := by
  induction cs with
  | nil => rfl
  | cons c cs ih =>
    rw [List.splitOn_cons_eq_if_modifyHead, segments, ih]
    by_cases hc : c = separator
    · rw [if_pos hc, if_pos (beq_iff_eq.2 hc)]
    · rw [if_neg hc, if_neg (by simpa using hc)]
      cases h : cs.splitOn separator with
      | nil => exact absurd h (List.splitOn_ne_nil _ _)
      | cons s ss => rfl

/-! ## Subtrees -/

theorem parts_prefix_of_covers {root key : String} (h : covers root key = true) :
    parts root <+: parts key := by
  rw [covers, coversChars_iff] at h
  rcases h with h | ⟨rest, h⟩
  · exact String.toList_inj.1 h ▸ List.prefix_refl _
  · rw [parts_eq, parts_eq, h, List.splitOn_append_cons_self, List.map_append]
    exact List.prefix_append _ _

theorem covers_of_parts_prefix {root key : String} (h : parts root <+: parts key) :
    covers root key = true := by
  obtain ⟨below, hbelow⟩ := h
  have hkey : key = ofParts (parts root ++ below) := by rw [hbelow, ofParts_parts]
  rw [covers, coversChars_iff]
  by_cases hnil : below = []
  · left
    rw [hkey, hnil, List.append_nil, ofParts_parts]
  · right
    have happ : key = root ++ "." ++ ofParts below := by
      have hroot : ".".intercalate (parts root) = root := ofParts_parts root
      rw [hkey, ofParts, String.intercalate_append_of_ne_nil (parts_ne_nil root) hnil, hroot,
        ofParts]
    refine ⟨(ofParts below).toList, ?_⟩
    rw [happ, String.toList_append, String.toList_append, List.append_assoc]
    rfl

theorem covers_iff_parts_prefix (root key : String) :
    covers root key = true ↔ parts root <+: parts key :=
  ⟨parts_prefix_of_covers, covers_of_parts_prefix⟩

/-! ## Ancestors -/

/-- The beginnings of a list but the empty one, longest first. -/
def beginnings {α : Type} (l : List α) : List (List α) := l.inits.tail.reverse

theorem beginnings_singleton {α : Type} (a : α) : beginnings [a] = [[a]] := rfl

theorem beginnings_concat {α : Type} (l : List α) (a : α) :
    beginnings (l ++ [a]) = (l ++ [a]) :: beginnings l := by
  cases l with
  | nil => rfl
  | cons b l =>
    rw [beginnings, List.inits_append, List.tail_append_of_ne_nil (by simp), List.reverse_append]
    rfl

theorem beginnings_map {α β : Type} (f : α → β) (l : List α) :
    beginnings (l.map f) = (beginnings l).map (List.map f) := by
  have h : (l.map f).inits = l.inits.map (List.map f) := by
    induction l with
    | nil => rfl
    | cons a l ih =>
      rw [List.map_cons, List.inits_cons, List.inits_cons, ih]
      simp
  rw [beginnings, beginnings, h, List.map_reverse, List.map_tail]

theorem ancestorsChars_eq (cs : List Char) :
    ancestorsChars cs = (beginnings (cs.splitOn separator)).map [separator].intercalate := by
  induction cs using ancestorsChars.induct with
  | case1 cs ih =>
    cases h : parent? cs with
    | none =>
      have hone : cs.splitOn separator = [cs] :=
        List.splitOn_eq_singleton ((parent?_eq_none_iff cs).1 h)
      rw [ancestorsChars_root h, hone, beginnings_singleton, List.map_singleton,
        List.intercalate_singleton]
    | some p =>
      obtain ⟨s, hs, hcs⟩ := (parent?_eq_some_iff cs p).1 h
      have hlast : cs.splitOn separator = p.splitOn separator ++ [s] := by
        rw [hcs, List.splitOn_append_cons_self, List.splitOn_eq_singleton hs]
      have hself : [separator].intercalate (p.splitOn separator ++ [s]) = cs := by
        rw [← hlast, List.intercalate_splitOn]
      rw [ancestorsChars_child h, ih p h, hlast, beginnings_concat, List.map_cons, hself]

theorem ancestors_eq (key : String) : ancestors key = (beginnings (parts key)).map ofParts := by
  rw [ancestors, ancestorsChars_eq, parts_eq, beginnings_map, List.map_map, List.map_map]
  apply List.map_congr_left
  intro segments _
  exact (ofParts_map_ofList segments).symm

/-- Going to the parent gives the ancestors one after the other, and nothing after the last. -/
theorem getElem?_ancestorsChars (cs : List Char) (n : Nat) :
    (ancestorsChars cs)[n]? = (fun k => k.bind parent?)^[n] (some cs) := by
  have hnone : ∀ n, (fun k => Option.bind k parent?)^[n] none = none := by
    intro n
    induction n with
    | zero => rfl
    | succ n ih => exact ih
  induction cs using ancestorsChars.induct generalizing n with
  | case1 cs ih =>
    cases n with
    | zero =>
      rw [ancestorsChars]
      rfl
    | succ n =>
      rw [Function.iterate_succ_apply, Option.bind_some]
      cases h : parent? cs with
      | none =>
        rw [ancestorsChars_root h, hnone]
        rfl
      | some p => rw [ancestorsChars_child h, List.getElem?_cons_succ, ih p h]

theorem getElem?_ancestors (key : String) (n : Nat) :
    (ancestors key)[n]?
      = ((fun k => k.bind parent?)^[n] (some key.toList)).map String.ofList := by
  rw [ancestors, List.getElem?_map, getElem?_ancestorsChars]

/-! ## Well-formed keys -/

theorem faultChars?_eq_none_iff (cs : List Char) :
    faultChars? cs = none ↔ [] ∉ cs.splitOn separator := by
  have hstart : cs.head? = some separator → [] ∈ cs.splitOn separator := by
    intro h
    obtain ⟨rest, rfl⟩ := List.head?_eq_some_iff.1 h
    rw [← List.nil_append (separator :: rest), List.splitOn_append_cons_self]
    simp
  have hend : cs.getLast? = some separator → [] ∈ cs.splitOn separator := by
    intro h
    obtain ⟨front, rfl⟩ := List.getLast?_eq_some_iff.1 h
    rw [List.splitOn_append_cons_self]
    simp
  rw [faultChars?, segments_eq]
  split
  · next hnil => simp [hnil]
  split
  · next hedge =>
    have hm : [] ∈ cs.splitOn separator := hedge.elim hstart hend
    simp [hm]
  split
  · next hm => simp [hm]
  · next hm => simp [hm]

theorem fault?_eq_none_iff (key : String) : fault? key = none ↔ ∀ s ∈ parts key, s ≠ "" := by
  rw [fault?, faultChars?_eq_none_iff, parts_eq, List.forall_mem_map]
  constructor
  · intro h s hs he
    have hnil : s = [] := String.ofList_injective he
    exact h (hnil ▸ hs)
  · intro h hnil
    exact h [] hnil rfl

/-! ## Top theorem -/

/-- Whether a key lies below another, what its ancestors are and whether it is well formed are
questions about its segments, for texts of any form. -/
theorem settled_by_segments (root key : String) :
    (covers root key = true ↔ root ∈ ancestors key) ∧
      (covers root key = true ↔ parts root <+: parts key) ∧
      (∀ n, (ancestors key)[n]?
        = ((fun k => k.bind parent?)^[n] (some key.toList)).map String.ofList) ∧
      (ancestors key).Nodup ∧
      ancestors key = (beginnings (parts key)).map ofParts ∧
      (fault? key = none ↔ ∀ s ∈ parts key, s ≠ "") :=
  ⟨(mem_ancestors_iff root key).symm, covers_iff_parts_prefix root key, getElem?_ancestors key,
    nodup_ancestors key, ancestors_eq key, fault?_eq_none_iff key⟩

end PluginHost.Key
