import PluginHost.Proofs.Json.Grammar

/-!
# Reading numbers and strings

Numbers and strings that are written by the rules are read to their end.  The end of a number shows
only in what follows it, which must be a blank or what separates or closes; a string has its quote.

    scanNumeral_append  a number is read with the digits that it is written with
    scanText_string     a string is read, and decodes to its text
-/

namespace PluginHost.Json

/-! ## Blanks and digits -/

theorem skipBlanks_append {a r : List Char} (ha : Blanks a) :
    skipBlanks (a ++ r) = skipBlanks r := by
  rw [skipBlanks, List.dropWhile_append_of_pos ha]
  rfl

/-- A text whose first token stands at its start. -/
theorem skipBlanks_cons {c : Char} {r : List Char} (hc : isBlank c = false) :
    skipBlanks (c :: r) = c :: r := by
  rw [skipBlanks, List.dropWhile_cons_of_neg (by rw [hc]; simp)]

theorem skipBlanks_append_cons {a r : List Char} {c : Char} (ha : Blanks a)
    (hc : isBlank c = false) : skipBlanks (a ++ c :: r) = c :: r := by
  rw [skipBlanks_append ha, skipBlanks_cons hc]

theorem skipBlanks_idem (cs : List Char) : skipBlanks (skipBlanks cs) = skipBlanks cs := by
  induction cs with
  | nil => rfl
  | cons c cs ih =>
    by_cases hc : isBlank c = true
    · have h : skipBlanks (c :: cs) = skipBlanks cs := List.dropWhile_cons_of_pos hc
      rw [h, ih]
    · have h : skipBlanks (c :: cs) = c :: cs := List.dropWhile_cons_of_neg hc
      rw [h, h]

/-- What may follow a value: nothing, a blank, or what separates or closes. -/
def Stops (r : List Char) : Prop :=
  ∀ c ∈ r.head?, isBlank c = true ∨ c = ',' ∨ c = ']' ∨ c = closeBrace

theorem stops_nil : Stops [] := fun _ hc => by simp at hc

theorem stops_cons {c : Char} {r : List Char} (hc : c = ',' ∨ c = ']' ∨ c = closeBrace) :
    Stops (c :: r) := by
  intro d hd
  obtain rfl : c = d := by simpa using hd
  exact .inr hc

theorem Stops.append {b r : List Char} (hb : Blanks b) (hr : Stops r) : Stops (b ++ r) := by
  cases b with
  | nil => exact hr
  | cons c b =>
    intro d hd
    obtain rfl : c = d := by simpa using hd
    exact .inl (hb c List.mem_cons_self)

/-- What stops does not go on with a character of a numeral. -/
theorem Stops.head_ne {r : List Char} (hr : Stops r) {c : Char} (hc : c ∈ r.head?) :
    c.isDigit = false ∧ c ≠ '.' ∧ c ≠ 'e' ∧ c ≠ 'E' := by
  rcases hr c hc with h | rfl | rfl | rfl
  · simp only [isBlank, Bool.or_eq_true, decide_eq_true_eq] at h
    rcases h with ((rfl | rfl) | rfl) | rfl <;> decide
  · decide
  · decide
  · decide

theorem scanDigits_append {ds r : List Char} (hds : IsDigits ds)
    (hr : ∀ c ∈ r.head?, c.isDigit = false) : scanDigits (ds ++ r) = (digitsOf ds, r) := by
  have hrest : r.takeWhile Char.isDigit = [] ∧ r.dropWhile Char.isDigit = r := by
    cases r with
    | nil => exact ⟨rfl, rfl⟩
    | cons c r =>
      have hc : c.isDigit = false := hr c rfl
      exact ⟨List.takeWhile_cons_of_neg (by simp [hc]), List.dropWhile_cons_of_neg (by simp [hc])⟩
  rw [scanDigits, List.takeWhile_append_of_pos hds.all, List.dropWhile_append_of_pos hds.all,
    hrest.1, hrest.2, List.append_nil, digitsOf]

/-- At least one digit, the first one named. -/
theorem IsDigits.exists_cons {ds : List Char} (h : IsDigits ds) :
    ∃ d rest, ds = d :: rest ∧ d.isDigit = true := by
  cases ds with
  | nil => exact absurd rfl h.ne_nil
  | cons d rest => exact ⟨d, rest, rfl, h.all d List.mem_cons_self⟩

/-! ## Numerals -/

theorem scanExponent_append {negative : Bool} {whole fraction : List Nat}
    {exponent : Option (Bool × List Nat)} {power r : List Char}
    (h : WritesExponent exponent power) (hr : Stops r) :
    scanExponent ⟨negative, whole, fraction, none, .complete⟩ (power ++ r)
      = (⟨negative, whole, fraction, exponent, .complete⟩, r) := by
  cases h with
  | none =>
    cases r with
    | nil => rfl
    | cons c r =>
      obtain ⟨-, -, he, hE⟩ := hr.head_ne (c := c) rfl
      unfold scanExponent
      exact if_neg (not_or.2 ⟨he, hE⟩)
  | @some e positive sign ds he hsign hds =>
    have hscan := scanDigits_append hds (r := r) fun c hc => (hr.head_ne hc).1
    obtain ⟨d, rest, rfl, hd⟩ := hds.exists_cons
    have hplus : d ≠ '+' := by rintro rfl; cases hd
    have hminus : d ≠ '-' := by rintro rfl; cases hd
    rw [List.cons_append] at hscan
    cases hsign with
    | none =>
      show scanExponent _ (e :: d :: (rest ++ r)) = _
      rw [scanExponent, if_pos he, hscan]
      · rfl
      · intro q hq
        exact hplus (List.cons.inj hq).1
      · intro q hq
        exact hminus (List.cons.inj hq).1
    | plus =>
      show scanExponent _ (e :: '+' :: d :: (rest ++ r)) = _
      rw [scanExponent, if_pos he, hscan]
      rfl
    | minus =>
      show scanExponent _ (e :: '-' :: d :: (rest ++ r)) = _
      rw [scanExponent, if_pos he, hscan]
      rfl

/-- Neither a fraction nor an exponent starts with a digit. -/
theorem not_digit_of_fraction {fraction : List Nat} {exponent : Option (Bool × List Nat)}
    {point power r : List Char} (hpoint : WritesFraction fraction point)
    (hpower : WritesExponent exponent power) (hr : Stops r) :
    ∀ c ∈ (point ++ (power ++ r)).head?, c.isDigit = false := by
  intro c hc
  cases hpoint with
  | none =>
    cases hpower with
    | none => exact (hr.head_ne hc).1
    | some he =>
      obtain rfl := Option.some.inj hc
      rcases he with rfl | rfl <;> decide
  | some =>
    obtain rfl := Option.some.inj hc
    decide

theorem eq_zero_of_digit {d : Char} (hd : d.isDigit = true) (h : d.toNat - 48 = 0) : d = '0' := by
  simp only [Char.isDigit, Bool.and_eq_true, decide_eq_true_eq] at hd
  have hlow : 48 ≤ d.toNat := hd.1
  have hd48 : d.toNat = 48 := by omega
  rw [← Char.ofNat_toNat d, hd48]

theorem ne_point_of_exponent {exponent : Option (Bool × List Nat)} {power r : List Char}
    (hpower : WritesExponent exponent power) (hr : Stops r) (q : List Char) :
    power ++ r ≠ '.' :: q := by
  cases hpower with
  | none =>
    rintro rfl
    exact (hr.head_ne (c := '.') rfl).2.1 rfl
  | some he =>
    intro heq
    have hpoint := (List.cons.inj heq).1
    rcases he with rfl | rfl <;> cases hpoint

/-- The digits in front of the point have no needless zero. -/
theorem digitsOf_ne {whole : List Char} (h : IsDigits whole)
    (hzero : whole.head? = some '0' → whole = ['0']) :
    digitsOf whole ≠ [] ∧ ∀ n ns, digitsOf whole ≠ 0 :: n :: ns := by
  obtain ⟨d, rest, rfl, hd⟩ := h.exists_cons
  refine ⟨by simp [digitsOf], ?_⟩
  intro n ns heq
  obtain ⟨hfirst, hrest⟩ := List.cons.inj heq
  have hone := hzero (by rw [eq_zero_of_digit hd hfirst]; rfl)
  rw [(List.cons.inj hone).2] at hrest
  cases hrest

theorem scanUnsigned_append (negative : Bool) {fraction : List Nat}
    {exponent : Option (Bool × List Nat)} {whole point power r : List Char}
    (hwhole : IsDigits whole) (hzero : whole.head? = some '0' → whole = ['0'])
    (hpoint : WritesFraction fraction point) (hpower : WritesExponent exponent power)
    (hr : Stops r) :
    scanUnsigned negative (whole ++ (point ++ (power ++ r)))
      = (⟨negative, digitsOf whole, fraction, exponent, .complete⟩, r) := by
  have hscan := scanDigits_append hwhole (not_digit_of_fraction hpoint hpower hr)
  obtain ⟨hnil, hlong⟩ := digitsOf_ne hwhole hzero
  unfold scanUnsigned
  rw [hscan]
  cases hpoint with
  | none =>
    -- what follows the digits is an exponent or the end, so there is no point
    split
    · next heq => exact absurd (congrArg Prod.fst heq) hnil
    · next heq => exact absurd (congrArg Prod.fst heq) (hlong _ _)
    · next heq => exact absurd (congrArg Prod.snd heq) (ne_point_of_exponent hpower hr _)
    · next heq =>
      obtain ⟨rfl, rfl⟩ := Prod.mk.inj heq
      exact scanExponent_append hpower hr
  | @some fs hfs =>
    have hbehind : scanDigits (fs ++ (power ++ r)) = (digitsOf fs, power ++ r) :=
      scanDigits_append hfs (not_digit_of_fraction .none hpower hr)
    rw [List.cons_append]
    split
    · next heq => exact absurd (congrArg Prod.fst heq) hnil
    · next heq => exact absurd (congrArg Prod.fst heq) (hlong _ _)
    · next heq =>
      obtain ⟨rfl, hdot⟩ := Prod.mk.inj heq
      obtain ⟨-, rfl⟩ := List.cons.inj hdot
      rw [hbehind]
      split
      · next heq => exact absurd (List.map_eq_nil_iff.1 (congrArg Prod.fst heq)) hfs.ne_nil
      · next heq =>
        obtain ⟨rfl, rfl⟩ := Prod.mk.inj heq
        exact scanExponent_append hpower hr
    · next hdot heq => exact absurd (congrArg Prod.snd heq).symm (hdot _)

theorem scanNumeral_append {n : Numeral} {w r : List Char} (h : WritesNumeral n w)
    (hr : Stops r) : scanNumeral (w ++ r) = (n, r) := by
  obtain ⟨hwhole, hzero, hpoint, hpower⟩ := h
  rename_i negative fraction exponent whole point power
  have hscan := scanUnsigned_append negative hwhole hzero hpoint hpower hr
  obtain ⟨d, rest, rfl, hd⟩ := hwhole.exists_cons
  have hminus : d ≠ '-' := by rintro rfl; cases hd
  simp only [List.append_assoc]
  cases negative with
  | false =>
    show scanNumeral (d :: (rest ++ (point ++ (power ++ r)))) = _
    rw [scanNumeral]
    · exact hscan
    · intro q hq
      exact hminus (List.cons.inj hq).1
  | true => exact hscan

/-! ## Strings -/

theorem escaped?_ne {e c : Char} (h : escaped? e = some c) : e ≠ 'u' := by
  rintro rfl
  cases h

/-- A string is read up to its closing quote, and decodes to its characters. -/
theorem scanText_append {cs w : List Char} (h : WritesChars cs w) :
    ∃ ps, Text.chars .closed ps = .ok cs ∧
      ∀ r, scanText (w ++ '"' :: r) = (⟨ps, .closed⟩, r) := by
  induction h with
  | nil =>
    refine ⟨[], rfl, fun r => ?_⟩
    rw [List.nil_append, scanText.eq_def]
    rfl
  | @plain c cs w hquote hslash hlow _ ih =>
    obtain ⟨ps, hps, hscan⟩ := ih
    refine ⟨.char c :: ps, by rw [Text.chars, hps]; rfl, fun r => ?_⟩
    rw [List.cons_append, scanText.eq_def]
    simp only [if_neg hquote, if_neg (Nat.not_lt.2 hlow), if_neg hslash, hscan, Text.cons]
  | @escaped e c cs w he _ ih =>
    obtain ⟨ps, hps, hscan⟩ := ih
    refine ⟨.char c :: ps, by rw [Text.chars, hps]; rfl, fun r => ?_⟩
    rw [List.cons_append, List.cons_append, scanText.eq_def]
    simp only [if_neg (escaped?_ne he), he, hscan, Text.cons]
    rfl
  | @unit h₁ h₂ h₃ h₄ n cs w hn hsurrogate _ ih =>
    obtain ⟨ps, hps, hscan⟩ := ih
    refine ⟨.unit n :: ps, ?_, fun r => ?_⟩
    · have hnotLow : ¬ (0xDC00 ≤ n ∧ n < 0xE000) := by omega
      have hnotHigh : ¬ (0xD800 ≤ n ∧ n < 0xDC00) := by omega
      rw [Text.chars.eq_def]
      simp only [if_neg hnotLow, if_neg hnotHigh, hps]
      rfl
    · simp only [List.cons_append]
      rw [scanText.eq_def]
      simp only [hn, hscan, Text.cons]
      rfl
  | @pair h₁ h₂ h₃ h₄ l₁ l₂ l₃ l₄ high low cs w hhigh hh hlow hl _ ih =>
    obtain ⟨ps, hps, hscan⟩ := ih
    refine ⟨.unit high :: .unit low :: ps, ?_, fun r => ?_⟩
    · have hnotLow : ¬ (0xDC00 ≤ high ∧ high < 0xE000) := by omega
      rw [Text.chars.eq_def]
      simp only [if_neg hnotLow, if_pos hh, if_pos hl, hps]
      rfl
    · simp only [List.cons_append]
      rw [scanText.eq_def]
      simp only [hhigh]
      rw [scanText.eq_def]
      simp only [hlow, hscan, Text.cons]
      rfl

/-- A written string says its text. -/
structure SaysString (s : String) (t : Text) : Prop where
  closed : t.ending = .closed
  value : t.value = .ok s

theorem scanText_string {s : String} {w : List Char} (h : WritesString s w) :
    ∃ t cs, w = '"' :: cs ∧ SaysString s t ∧ ∀ r, scanText (cs ++ r) = (t, r) := by
  obtain ⟨body, hbody, rfl⟩ := h
  obtain ⟨ps, hps, hscan⟩ := scanText_append hbody
  refine ⟨⟨ps, .closed⟩, body ++ ['"'], rfl, ⟨rfl, ?_⟩, fun r => ?_⟩
  · rw [Text.value, hps]
    exact congrArg Except.ok String.ofList_toList
  · rw [List.append_assoc]
    exact hscan r

end PluginHost.Json
