import Mathlib.Data.List.Forall2
import Mathlib.Data.List.TakeWhile
import PluginHost.ArgVector
import PluginHost.Proofs.Text.Utf8

/-!
# Arguments that cross

A library is promised as many pointers as the vector counts; the count is a number of 32 bits with a
sign.  From a vector that keeps the promise, the texts are read back that were written into it, each
cut at its first zero character.  A cut text has no zero byte in UTF-8, so its bytes can be ended by
a zero, and what is read before that zero is UTF-8 again.

    as many pointers as are counted → the same texts, cut                           (toList_ofList)
    no zero character in them either → the same texts                   (toList_ofList_of_crosses)
    fewer than 2 ^ 31 texts → all are read, cut, and no fallback is taken          (crosses_as_cut)
-/

namespace PluginHost.ArgVector

/-- What a library is promised: as many pointers as the vector counts. -/
def IsCounted (v : ArgVector) : Prop := v.count.toInt = (v.pointers.getD []).length

/-- Arguments that cross unharmed: the vector counts them, and none contains a zero character. -/
structure Crosses (args : List String) : Prop where
  counted : (ofList args).IsCounted
  whole : ∀ a ∈ args, '\x00' ∉ a.toList

/-- The promise is kept for all arguments that a count can tell. -/
theorem isCounted_ofList {args : List String} (h : args.length < 2147483648) :
    (ofList args).IsCounted := by
  have hcount : (ofList args).count.toInt = args.length := Int32.toInt_ofNat_of_lt (by omega)
  rw [IsCounted, hcount]
  cases args with
  | nil => rfl
  | cons a args => exact congrArg Int.ofNat (List.length_map _).symm

/-! ## One argument -/

/-- The second text is the first one up to its first zero character, if it has one. -/
structure CutAtZero (a b : String) : Prop where
  whole : '\x00' ∉ b.toList
  start : b = a ∨ ∃ rest, a.toList = b.toList ++ '\x00' :: rest

theorem cutAtZero_cut (a : String) : CutAtZero a (cut a) := by
  have hsplit := List.takeWhile_append_dropWhile (p := (· ≠ '\x00')) (l := a.toList)
  constructor
  · rw [cut, String.toList_ofList]
    intro hz
    simpa using List.mem_takeWhile_imp hz
  · cases hrest : a.toList.dropWhile (· ≠ '\x00') with
    | nil =>
      left
      rw [hrest, List.append_nil] at hsplit
      rw [cut, hsplit, String.ofList_toList]
    | cons c rest =>
      right
      have hc : c = '\x00' := by
        have := List.head?_dropWhile_not (· ≠ '\x00') a.toList
        rw [hrest] at this
        simpa using this
      rw [hrest, hc] at hsplit
      exact ⟨rest, by rw [cut, String.toList_ofList, hsplit]⟩

theorem cut_of_whole {a : String} (h : '\x00' ∉ a.toList) : cut a = a := by
  have hall : ∀ c ∈ a.toList, decide (c ≠ '\x00') = true := fun c hc =>
    decide_eq_true fun he => h (he ▸ hc)
  rw [cut, List.takeWhile_eq_self_iff.2 hall, String.ofList_toList]

/-- The bytes of a cut text are all there is before the first zero. -/
theorem takeWhile_ofString_cut (a : String) :
    (Utf8.ofString (cut a)).takeWhile (· ≠ 0) = Utf8.ofString (cut a) := by
  have hcut : (cut a).toList.takeWhile (· ≠ '\x00') = (cut a).toList := by
    rw [cut, String.toList_ofList, List.takeWhile_idem]
  rw [Utf8.ofString, Utf8.takeWhile_encode, hcut]

/-- A cut text is never refused. -/
theorem terminated?_cut (a : String) :
    terminated? (Utf8.ofString (cut a)) = some (Utf8.ofString (cut a) ++ [0]) := by
  have hz : 0 ∉ Utf8.ofString (cut a) := by
    intro hz
    rw [← takeWhile_ofString_cut a] at hz
    simpa using List.mem_takeWhile_imp hz
  rw [terminated?, if_neg hz]

theorem upToZero_pointee (a : String) : upToZero (pointee a) = Utf8.ofString (cut a) := by
  have hall := List.takeWhile_eq_self_iff.1 (takeWhile_ofString_cut a)
  rw [pointee, terminated?_cut, Option.getD_some, upToZero, List.takeWhile_append_of_pos hall,
    List.takeWhile_cons_of_neg (by simp), List.append_nil]

theorem stringLossy_pointee (a : String) : Utf8.stringLossy (upToZero (pointee a)) = cut a := by
  rw [upToZero_pointee, Utf8.stringLossy, Utf8.ofString, Utf8.decodeLossy_encode,
    String.ofList_toList]

/-- What is read is UTF-8, so nothing in it is replaced. -/
theorem string?_pointee (a : String) : Utf8.string? (upToZero (pointee a)) = some (cut a) :=
  Utf8.string?_eq_some_iff.2 (upToZero_pointee a)

/-! ## All arguments -/

theorem toList_ofList {args : List String} (h : (ofList args).IsCounted) :
    (ofList args).toList = args.map cut := by
  cases args with
  | nil => rfl
  | cons a args =>
    have hcount : (Int32.ofNat (a :: args).length).toInt = ((a :: args).length : Int) :=
      h.trans (congrArg Int.ofNat (List.length_map _))
    have hpos : ¬ Int32.ofNat (a :: args).length ≤ 0 := by
      rw [Int32.le_iff_toInt_le, hcount, List.length_cons]
      show ¬ ((args.length + 1 : Nat) : Int) ≤ 0
      omega
    have hall : (Int32.ofNat (a :: args).length).toNatClampNeg = (a :: args).length := by
      rw [Int32.toNatClampNeg, hcount, Int.toNat_natCast]
    simp only [toList, ofList, List.isEmpty_cons, Bool.false_eq_true, if_false, if_neg hpos]
    rw [hall, List.take_of_length_le (by rw [List.length_map]), List.filterMap_map,
      ← List.filterMap_eq_map]
    congr 1
    funext a
    exact congrArg some (stringLossy_pointee a)

theorem toList_ofList_of_crosses {args : List String} (h : Crosses args) :
    (ofList args).toList = args := by
  have hcut : args.map cut = args.map id :=
    List.map_congr_left fun a ha => cut_of_whole (h.whole a ha)
  rw [toList_ofList h.counted, hcut, List.map_id]

theorem pointers_ofList (args : List String) :
    (ofList args).pointers.getD [] = args.map fun a => some (pointee a) := by
  cases args with
  | nil => rfl
  | cons a args => rfl

/-! ## Top theorem -/

/-- Texts that a count can tell cross one by one, each cut at its first zero character: none is
refused for a zero inside, and what a library reads is UTF-8. -/
theorem crosses_as_cut {args : List String} (h : args.length < 2147483648) :
    List.Forall₂ CutAtZero args (ofList args).toList ∧
      (∀ a ∈ args, terminated? (Utf8.ofString (cut a)) ≠ none) ∧
      ∀ p ∈ (ofList args).pointers.getD [],
        ∃ bytes, p = some bytes ∧ Utf8.string? (upToZero bytes) ≠ none := by
  refine ⟨?_, ?_, ?_⟩
  · rw [toList_ofList (isCounted_ofList h), List.forall₂_map_right_iff, List.forall₂_same]
    exact fun a _ => cutAtZero_cut a
  · intro a _
    rw [terminated?_cut]
    exact Option.some_ne_none _
  · intro p hp
    rw [pointers_ofList] at hp
    obtain ⟨a, -, rfl⟩ := List.mem_map.1 hp
    refine ⟨pointee a, rfl, ?_⟩
    rw [string?_pointee]
    exact Option.some_ne_none _

/-- An argument with a zero character inside, an empty one, and characters of several bytes. -/
theorem crosses_as_cut_mixed :
    ["run", "with\x00nul", "", "größe 😀"].length < 2147483648 ∧
      List.Forall₂ CutAtZero ["run", "with\x00nul", "", "größe 😀"]
        ["run", "with", "", "größe 😀"] := by
  have hshort : ["run", "with\x00nul", "", "größe 😀"].length < 2147483648 := by decide
  have hread : (ofList ["run", "with\x00nul", "", "größe 😀"]).toList
      = ["run", "with", "", "größe 😀"] := by decide +kernel
  exact ⟨hshort, hread ▸ (crosses_as_cut hshort).1⟩

end PluginHost.ArgVector
