import PluginHost.Proofs.Json.Scalars

/-!
# Reading what was written

A text that writes a value by the rules is read to its end, and into a tree that says the value: its
strings and numbers stand for theirs, its members are those of the value in order, and nothing in it
is broken.  Fuel counts values and list ends, at most two for each character.

    Says v t                   a tree says a value
    skip_eq_ok                 what says a value can be passed over
    reads_value, reads_items   a value is read up to where it ends, items up to their bracket
    ofChars_of_writes          a whole text is read, and nothing follows
-/

namespace PluginHost.Json

/-! ## Values -/

mutual

/-- A tree says a value: nothing in it is broken, and strings and numbers stand for theirs. -/
inductive Says : Value → Tree → Prop
  | null : Says .null .null
  | bool (b : Bool) : Says (.bool b) (.bool b)
  | number {x : Number} {n : Numeral} : n.ending = .complete → n.value = .ok x →
      Says (.number x) (.number n)
  | string {s : String} {t : Text} : SaysString s t → Says (.string s) (.string t)
  | array {vs : List Value} {ts : List Tree} : SaysItems vs ts →
      Says (.array vs) (.array ts .closed)
  | object {ms : List (String × Value)} {ts : List (Text × Tree)} : SaysMembers ms ts →
      Says (.object ms) (.object ts none .closed)

/-- Trees say the items of an array. -/
inductive SaysItems : List Value → List Tree → Prop
  | nil : SaysItems [] []
  | cons {v : Value} {t : Tree} {vs : List Value} {ts : List Tree} : Says v t → SaysItems vs ts →
      SaysItems (v :: vs) (t :: ts)

/-- Names and trees say the members of an object. -/
inductive SaysMembers : List (String × Value) → List (Text × Tree) → Prop
  | nil : SaysMembers [] []
  | cons {name : String} {k : Text} {v : Value} {t : Tree} {ms : List (String × Value)}
      {ts : List (Text × Tree)} : SaysString name k → Says v t → SaysMembers ms ts →
      SaysMembers ((name, v) :: ms) ((k, t) :: ts)

end

mutual

theorem skip_eq_ok {v : Value} {t : Tree} : Says v t → skip t = .ok ()
  | .null => rfl
  | .bool _ => rfl
  | .number hn _ => by rw [skip, if_pos hn]
  | .string hs => by rw [skip, hs.closed]; rfl
  | .array hts => by
    rw [skip, skipItems_eq_ok hts]
    rfl
  | .object hts => by
    rw [skip, skipMembers_eq_ok hts]
    rfl

theorem skipItems_eq_ok {vs : List Value} {ts : List Tree} :
    SaysItems vs ts → skipItems ts = .ok ()
  | .nil => rfl
  | .cons ht hts => by
    rw [skipItems, skip_eq_ok ht]
    exact skipItems_eq_ok hts

theorem skipMembers_eq_ok {ms : List (String × Value)} {ts : List (Text × Tree)} :
    SaysMembers ms ts → skipMembers ts = .ok ()
  | .nil => rfl
  | .cons hk ht hts => by
    rw [skipMembers, hk.closed, skip_eq_ok ht]
    exact skipMembers_eq_ok hts

end

theorem readValue_skipBlanks (fuel : Nat) (cs : List Char) :
    readValue fuel (skipBlanks cs) = readValue fuel cs := by
  cases fuel with
  | zero => rfl
  | succ fuel => simp only [readValue, skipBlanks_idem]

theorem readItems_skipBlanks (fuel : Nat) (cs : List Char) :
    readItems fuel (skipBlanks cs) = readItems fuel cs := by
  cases fuel with
  | zero => rfl
  | succ fuel => simp only [readItems, readValue_skipBlanks]

theorem readMembers_skipBlanks (fuel : Nat) (cs : List Char) :
    readMembers fuel (skipBlanks cs) = readMembers fuel cs := by
  cases fuel with
  | zero => rfl
  | succ fuel => simp only [readMembers, skipBlanks_idem]

theorem readValue_string {s : String} {w : List Char} (h : WritesString s w) :
    ∃ t, SaysString s t ∧ ∀ fuel r, readValue (fuel + 1) (w ++ r) = (.string t, r) := by
  obtain ⟨t, cs, rfl, ht, hscan⟩ := scanText_string h
  refine ⟨t, ht, fun fuel r => ?_⟩
  rw [List.cons_append, readValue, skipBlanks_cons (by decide)]
  simp only [hscan]
  rfl

/-- What a number starts with is no blank and starts nothing else. -/
theorem first_of_numeral {c : Char} (h : c = '-' ∨ c.isDigit = true) :
    isBlank c = false ∧ c ≠ ']' ∧ c ≠ 'n' ∧ c ≠ 't' ∧ c ≠ 'f' ∧ c ≠ '"' := by
  have hne : ∀ d : Char, d ≠ '-' → d.isDigit = false → c ≠ d := by
    rintro d hminus hdigit rfl
    rcases h with h | h
    · exact hminus h
    · rw [hdigit] at h
      cases h
  refine ⟨?_, hne _ (by decide) (by decide), hne _ (by decide) (by decide),
    hne _ (by decide) (by decide), hne _ (by decide) (by decide), hne _ (by decide) (by decide)⟩
  have hblank := hne ' ' (by decide) (by decide)
  have htab := hne '\t' (by decide) (by decide)
  have hfeed := hne '\n' (by decide) (by decide)
  have hreturn := hne '\r' (by decide) (by decide)
  simp [isBlank, hblank, htab, hfeed, hreturn]

theorem exists_first_numeral {n : Numeral} {w : List Char} (h : WritesNumeral n w) :
    ∃ c cs, w = c :: cs ∧ (c = '-' ∨ c.isDigit = true) := by
  obtain ⟨hwhole, -, -, -⟩ := h
  rename_i negative _ _ whole _ _
  cases negative with
  | false =>
    obtain ⟨d, rest, rfl, hd⟩ := hwhole.exists_cons
    exact ⟨d, _, rfl, .inr hd⟩
  | true => exact ⟨'-', _, rfl, .inl rfl⟩

theorem readValue_number {n : Numeral} {w r : List Char} (h : WritesNumeral n w) (hr : Stops r)
    (fuel : Nat) : readValue (fuel + 1) (w ++ r) = (.number n, r) := by
  have hscan := scanNumeral_append h hr
  obtain ⟨c, cs, rfl, hc⟩ := exists_first_numeral h
  obtain ⟨hblank, -, hn, ht, hf, hq⟩ := first_of_numeral hc
  rw [List.cons_append] at hscan ⊢
  rw [readValue, skipBlanks_cons hblank]
  simp only [if_neg hn, if_neg ht, if_neg hf, if_neg hq, if_pos hc, hscan]

/-- A value starts with a character that is no blank and closes no array. -/
theorem exists_first {v : Value} {w : List Char} (h : Writes v w) :
    ∃ c cs, w = c :: cs ∧ isBlank c = false ∧ c ≠ ']' := by
  cases h with
  | null => exact ⟨_, _, rfl, by decide, by decide⟩
  | bool b => cases b <;> exact ⟨_, _, rfl, by decide, by decide⟩
  | number hn _ =>
    obtain ⟨c, cs, rfl, hc⟩ := exists_first_numeral hn
    obtain ⟨hblank, hclose, -⟩ := first_of_numeral hc
    exact ⟨c, cs, rfl, hblank, hclose⟩
  | string hs =>
    obtain ⟨body, -, rfl⟩ := hs
    exact ⟨_, _, rfl, by decide, by decide⟩
  | emptyArray _ | array _ | emptyObject _ | object _ => exact ⟨_, _, rfl, by decide, by decide⟩

/-- Behind blanks, items start with a character that does not close the array. -/
theorem skipBlanks_items {vs : List Value} {w : List Char} (h : WritesItems vs w) (r : List Char) :
    ∃ c cs, skipBlanks (w ++ r) = c :: cs ∧ c ≠ ']' := by
  have hpadded : ∀ {v : Value} {w : List Char}, WritesPadded v w → ∀ r,
      ∃ c cs, skipBlanks (w ++ r) = c :: cs ∧ c ≠ ']' := by
    rintro v w ⟨ha, hv, -⟩ r
    obtain ⟨c, cs, rfl, hblank, hclose⟩ := exists_first hv
    rw [List.append_assoc, List.append_assoc, skipBlanks_append ha]
    exact ⟨c, _, skipBlanks_cons hblank, hclose⟩
  cases h with
  | last hw => exact hpadded hw r
  | cons hw _ =>
    rw [List.append_assoc]
    exact hpadded hw _

/-- Behind blanks, members start with a quote. -/
theorem skipBlanks_members {ms : List (String × Value)} {w : List Char} (h : WritesMembers ms w)
    (r : List Char) : ∃ cs, skipBlanks (w ++ r) = '"' :: cs := by
  have hname : ∀ {name : String} {k : List Char}, WritesName name k → ∀ r,
      ∃ cs, skipBlanks (k ++ r) = '"' :: cs := by
    rintro name k ⟨a, s, b, ha, ⟨body, -, rfl⟩, -, rfl⟩ r
    rw [List.append_assoc, List.append_assoc, skipBlanks_append ha]
    exact ⟨_, skipBlanks_cons (by decide)⟩
  cases h with
  | last hk _ =>
    rw [List.append_assoc]
    exact hname hk _
  | cons hk _ _ =>
    rw [List.append_assoc, List.append_assoc]
    exact hname hk _

/-! ## Reading values -/

theorem readValue_null (fuel : Nat) (r : List Char) :
    readValue (fuel + 1) (['n', 'u', 'l', 'l'] ++ r) = (.null, r) := by
  rw [List.cons_append, readValue, skipBlanks_cons (by decide)]
  rfl

theorem readValue_bool (b : Bool) (fuel : Nat) (r : List Char) :
    readValue (fuel + 1) (boolText b ++ r) = (.bool b, r) := by
  cases b with
  | false =>
    show readValue (fuel + 1) ('f' :: ['a', 'l', 's', 'e'] ++ r) = _
    rw [List.cons_append, readValue, skipBlanks_cons (by decide)]
    rfl
  | true =>
    show readValue (fuel + 1) ('t' :: ['r', 'u', 'e'] ++ r) = _
    rw [List.cons_append, readValue, skipBlanks_cons (by decide)]
    rfl

theorem readValue_emptyArray {b : List Char} (hb : Blanks b) (fuel : Nat) (r : List Char) :
    readValue (fuel + 1) ('[' :: b ++ [']'] ++ r) = (.array [] .closed, r) := by
  have hclose : skipBlanks (b ++ ']' :: r) = ']' :: r := skipBlanks_append_cons hb (by decide)
  rw [List.append_assoc, List.cons_append, readValue, skipBlanks_cons (by decide)]
  simp only [List.singleton_append, hclose]
  rfl

theorem readValue_emptyObject {b : List Char} (hb : Blanks b) (fuel : Nat) (r : List Char) :
    readValue (fuel + 1) (openBrace :: b ++ [closeBrace] ++ r) = (.object [] none .closed, r) := by
  have hclose : skipBlanks (b ++ closeBrace :: r) = closeBrace :: r :=
    skipBlanks_append_cons hb (by decide)
  rw [List.append_assoc, List.cons_append, readValue, skipBlanks_cons (by decide)]
  simp only [List.singleton_append, hclose]
  rfl

theorem readValue_array {vs : List Value} {w r : List Char} {ts : List Tree} {fuel : Nat}
    (h : WritesItems vs w) (hread : readItems fuel (w ++ ']' :: r) = (ts, .closed, r)) :
    readValue (fuel + 1) ('[' :: w ++ [']'] ++ r) = (.array ts .closed, r) := by
  obtain ⟨c, cs, hfirst, hc⟩ := skipBlanks_items h (']' :: r)
  rw [← readItems_skipBlanks, hfirst] at hread
  rw [List.append_assoc, List.cons_append, readValue, skipBlanks_cons (by decide)]
  simp only [List.singleton_append, hfirst]
  rw [if_neg (by decide), if_neg (by decide), if_neg (by decide), if_neg (by decide),
    if_neg (by decide), if_pos trivial]
  split
  · next heq => exact absurd (List.cons.inj heq).1 hc
  · next heq => cases heq
  · rw [hread]

theorem readValue_object {ms : List (String × Value)} {w r : List Char} {ts : List (Text × Tree)}
    {fuel : Nat} (h : WritesMembers ms w)
    (hread : readMembers fuel (w ++ closeBrace :: r) = (ts, .closed, r)) :
    readValue (fuel + 1) (openBrace :: w ++ [closeBrace] ++ r) = (.object ts none .closed, r) := by
  obtain ⟨cs, hfirst⟩ := skipBlanks_members h (closeBrace :: r)
  rw [← readMembers_skipBlanks, hfirst] at hread
  rw [List.append_assoc, List.cons_append, readValue, skipBlanks_cons (by decide)]
  simp only [List.singleton_append, hfirst, hread]
  rfl

theorem readItems_last {fuel : Nat} {cs b r : List Char} {t : Tree} (hb : Blanks b)
    (h : readValue fuel cs = (t, b ++ ']' :: r)) : readItems (fuel + 1) cs = ([t], .closed, r) := by
  rw [readItems, h]
  simp only [skipBlanks_append_cons hb (c := ']') (by decide)]

theorem readItems_cons {fuel : Nat} {cs b rest r : List Char} {t : Tree} {ts : List Tree}
    (hb : Blanks b) (h : readValue fuel cs = (t, b ++ ',' :: rest))
    (hrest : readItems fuel rest = (ts, .closed, r)) :
    readItems (fuel + 1) cs = (t :: ts, .closed, r) := by
  rw [readItems, h]
  simp only [skipBlanks_append_cons hb (c := ',') (by decide), hrest]

/-- A name is read with its colon; the value behind it is the last one, or others follow. -/
theorem readMembers_name {name : String} {k : List Char} (h : WritesName name k) :
    ∃ n, SaysString name n ∧ ∀ {fuel : Nat} {cs b : List Char} {t : Tree}, Blanks b →
      (∀ r, readValue fuel cs = (t, b ++ closeBrace :: r) →
        readMembers (fuel + 1) (k ++ ':' :: cs) = ([(n, t)], .closed, r)) ∧
      ∀ rest ts r, readValue fuel cs = (t, b ++ ',' :: rest) →
        readMembers fuel rest = (ts, .closed, r) →
        readMembers (fuel + 1) (k ++ ':' :: cs) = ((n, t) :: ts, .closed, r) := by
  obtain ⟨a, s, b₁, ha, hs, hb₁, rfl⟩ := h
  obtain ⟨n, q, rfl, hn, hscan⟩ := scanText_string hs
  refine ⟨n, hn, fun {fuel cs b t} hb => ?_⟩
  have hquote : skipBlanks (a ++ ('"' :: q) ++ b₁ ++ ':' :: cs)
      = '"' :: (q ++ (b₁ ++ ':' :: cs)) := by
    rw [List.append_assoc, List.append_assoc, skipBlanks_append ha]
    exact skipBlanks_cons (by decide)
  have hcolon : skipBlanks (b₁ ++ ':' :: cs) = ':' :: cs := skipBlanks_append_cons hb₁ (by decide)
  constructor
  · intro r hr
    have hclose : skipBlanks (b ++ closeBrace :: r) = closeBrace :: r :=
      skipBlanks_append_cons hb (by decide)
    rw [readMembers, hquote]
    simp only [hscan, hcolon, hr, hclose]
    rfl
  · intro rest ts r hr hrest
    have hcomma : skipBlanks (b ++ ',' :: rest) = ',' :: rest :=
      skipBlanks_append_cons hb (by decide)
    rw [readMembers, hquote]
    simp only [hscan, hcolon, hr, hcomma, hrest]
    rfl

theorem WritesPadded.length_pos {v : Value} {w : List Char} (h : WritesPadded v w) :
    0 < w.length := by
  obtain ⟨-, hv, -⟩ := h
  obtain ⟨c, cs, rfl, -⟩ := exists_first hv
  simp only [List.length_append, List.length_cons]
  omega

mutual

/-- A value is read up to where it ends. -/
theorem reads_value {v : Value} {w : List Char} : Writes v w →
    ∃ t, Says v t ∧ ∀ fuel r, 2 * w.length ≤ fuel + 1 → Stops r →
      readValue (fuel + 1) (w ++ r) = (t, r)
  | .null => ⟨.null, .null, fun fuel r _ _ => readValue_null fuel r⟩
  | .bool b => ⟨.bool b, .bool b, fun fuel r _ _ => readValue_bool b fuel r⟩
  | .number hn hx => by
    have hend : ∀ {n : Numeral} {w : List Char}, WritesNumeral n w → n.ending = .complete := by
      rintro n w ⟨⟩
      rfl
    exact ⟨_, .number (hend hn) hx, fun fuel r _ hr => readValue_number hn hr fuel⟩
  | .string hs => by
    obtain ⟨t, ht, hread⟩ := readValue_string hs
    exact ⟨_, .string ht, fun fuel r _ _ => hread fuel r⟩
  | .emptyArray hb => ⟨_, .array .nil, fun fuel r _ _ => readValue_emptyArray hb fuel r⟩
  | .array hw => by
    obtain ⟨ts, hts, hread⟩ := reads_items hw
    refine ⟨_, .array hts, fun fuel r hfuel _ => ?_⟩
    simp only [List.length_append, List.length_cons, List.length_nil] at hfuel
    obtain ⟨fuel, rfl⟩ : ∃ f, fuel = f + 1 := ⟨fuel - 1, by omega⟩
    exact readValue_array hw (hread fuel r (by omega))
  | .emptyObject hb => ⟨_, .object .nil, fun fuel r _ _ => readValue_emptyObject hb fuel r⟩
  | .object hw => by
    obtain ⟨ts, hts, hread⟩ := reads_members hw
    refine ⟨_, .object hts, fun fuel r hfuel _ => ?_⟩
    simp only [List.length_append, List.length_cons, List.length_nil] at hfuel
    obtain ⟨fuel, rfl⟩ : ∃ f, fuel = f + 1 := ⟨fuel - 1, by omega⟩
    exact readValue_object hw (hread fuel r (by omega))

/-- A value with blanks around it is read up to the blanks behind it. -/
theorem reads_padded {v : Value} {w : List Char} : WritesPadded v w →
    ∃ t b, Says v t ∧ Blanks b ∧ ∀ fuel r, 2 * w.length ≤ fuel → Stops r →
      readValue fuel (w ++ r) = (t, b ++ r)
  | .mk ha hv hb => by
    have hpos := (WritesPadded.mk ha hv hb).length_pos
    obtain ⟨t, ht, hread⟩ := reads_value hv
    refine ⟨t, _, ht, hb, fun fuel r hfuel hr => ?_⟩
    obtain ⟨fuel, rfl⟩ : ∃ f, fuel = f + 1 := ⟨fuel - 1, by omega⟩
    simp only [List.length_append] at hfuel
    rw [List.append_assoc, List.append_assoc, ← readValue_skipBlanks, skipBlanks_append ha,
      readValue_skipBlanks]
    exact hread fuel _ (by omega) (hr.append hb)

/-- Items are read up to the bracket that closes them. -/
theorem reads_items {vs : List Value} {w : List Char} : WritesItems vs w →
    ∃ ts, SaysItems vs ts ∧ ∀ fuel r, 2 * w.length ≤ fuel →
      readItems (fuel + 1) (w ++ ']' :: r) = (ts, .closed, r)
  | .last hw => by
    obtain ⟨t, b, ht, hb, hread⟩ := reads_padded hw
    refine ⟨[t], .cons ht .nil, fun fuel r hfuel => ?_⟩
    exact readItems_last hb (hread fuel _ hfuel (stops_cons (by simp)))
  | .cons hw hrest => by
    obtain ⟨t, b, ht, hb, hread⟩ := reads_padded hw
    obtain ⟨ts, hts, hreads⟩ := reads_items hrest
    refine ⟨t :: ts, .cons ht hts, fun fuel r hfuel => ?_⟩
    simp only [List.length_append, List.length_cons] at hfuel
    obtain ⟨fuel, rfl⟩ : ∃ f, fuel = f + 1 := ⟨fuel - 1, by omega⟩
    rw [List.append_assoc, List.cons_append]
    exact readItems_cons hb (hread _ _ (by omega) (stops_cons (by simp))) (hreads fuel r (by omega))

/-- Members are read up to the brace that closes them. -/
theorem reads_members {ms : List (String × Value)} {w : List Char} : WritesMembers ms w →
    ∃ ts, SaysMembers ms ts ∧ ∀ fuel r, 2 * w.length ≤ fuel →
      readMembers (fuel + 1) (w ++ closeBrace :: r) = (ts, .closed, r)
  | .last hk hw => by
    obtain ⟨n, hn, hname⟩ := readMembers_name hk
    obtain ⟨t, b, ht, hb, hread⟩ := reads_padded hw
    refine ⟨[(n, t)], .cons hn ht .nil, fun fuel r hfuel => ?_⟩
    simp only [List.length_append, List.length_cons] at hfuel
    rw [List.append_assoc, List.cons_append]
    exact (hname hb).1 r (hread _ _ (by omega) (stops_cons (by simp)))
  | .cons hk hw hrest => by
    obtain ⟨n, hn, hname⟩ := readMembers_name hk
    obtain ⟨t, b, ht, hb, hread⟩ := reads_padded hw
    obtain ⟨ts, hts, hreads⟩ := reads_members hrest
    refine ⟨(n, t) :: ts, .cons hn ht hts, fun fuel r hfuel => ?_⟩
    simp only [List.length_append, List.length_cons] at hfuel
    obtain ⟨fuel, rfl⟩ : ∃ f, fuel = f + 1 := ⟨fuel - 1, by omega⟩
    rw [List.append_assoc, List.append_assoc, List.cons_append, List.cons_append]
    exact (hname hb).2 _ ts r (hread _ _ (by omega) (stops_cons (by simp)))
      (hreads fuel r (by omega))

end

/-- A text of one value is read to its end. -/
theorem ofChars_of_writes {text : String} {v : Value} (h : WritesText text v) :
    ∃ t, Says v t ∧ Document.ofChars text.toList = ⟨t, false⟩ := by
  obtain ⟨t, b, ht, hb, hread⟩ := reads_padded h
  refine ⟨t, ht, ?_⟩
  have hall := hread (2 * text.toList.length + 1) [] (by omega) stops_nil
  rw [List.append_nil, List.append_nil] at hall
  have hend : skipBlanks b = [] := by
    rw [← List.append_nil b, skipBlanks_append hb]
    rfl
  rw [Document.ofChars, hall]
  simp only [hend]
  rfl

end PluginHost.Json
