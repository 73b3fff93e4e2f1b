import PluginHost.Json.Decode

/-!
# The texts that write a value

What a JSON text says, given as rules and not as a reader: blanks may stand between all tokens, a
character of a string may stand for itself or be escaped in any of the ways there are, and numbers
and nested values come as they like.  The members of an object are a list, as they are written.

    WritesChars    what may stand between the quotes of a string
    WritesNumeral  a number, as its digits
    Writes         a value, without blanks around it
    WritesText     a whole text

`pretty` writes objects of texts, truth values and nulls by these rules            (writes_pretty)
-/

namespace PluginHost.Json

/-! ## Rules -/

def Blanks (w : List Char) : Prop := ∀ c ∈ w, isBlank c = true

/-- The characters of a string and how they may be written between the quotes. -/
inductive WritesChars : List Char → List Char → Prop
  | nil : WritesChars [] []
  | plain {c : Char} {cs w : List Char} : c ≠ '"' → c ≠ '\\' → 0x20 ≤ c.toNat →
      WritesChars cs w → WritesChars (c :: cs) (c :: w)
  | escaped {e c : Char} {cs w : List Char} : escaped? e = some c →
      WritesChars cs w → WritesChars (c :: cs) ('\\' :: e :: w)
  | unit {h₁ h₂ h₃ h₄ : Char} {n : Nat} {cs w : List Char} : unit? h₁ h₂ h₃ h₄ = some n →
      ¬ (0xD800 ≤ n ∧ n < 0xE000) →
      WritesChars cs w → WritesChars (Char.ofNat n :: cs) ('\\' :: 'u' :: h₁ :: h₂ :: h₃ :: h₄ :: w)
  | pair {h₁ h₂ h₃ h₄ l₁ l₂ l₃ l₄ : Char} {high low : Nat} {cs w : List Char} :
      unit? h₁ h₂ h₃ h₄ = some high → 0xD800 ≤ high ∧ high < 0xDC00 →
      unit? l₁ l₂ l₃ l₄ = some low → 0xDC00 ≤ low ∧ low < 0xE000 →
      WritesChars cs w → WritesChars (pairChar high low :: cs)
        ('\\' :: 'u' :: h₁ :: h₂ :: h₃ :: h₄ :: '\\' :: 'u' :: l₁ :: l₂ :: l₃ :: l₄ :: w)

/-- A string in its quotes. -/
def WritesString (s : String) (w : List Char) : Prop :=
  ∃ body, WritesChars s.toList body ∧ w = '"' :: body ++ ['"']

structure IsDigits (ds : List Char) : Prop where
  ne_nil : ds ≠ []
  all : ∀ c ∈ ds, c.isDigit = true

/-- The numbers that digits stand for. -/
def digitsOf (ds : List Char) : List Nat := ds.map fun c => c.toNat - 48

/-- What stands behind the point of a number, with the point. -/
inductive WritesFraction : List Nat → List Char → Prop
  | none : WritesFraction [] []
  | some {ds : List Char} : IsDigits ds → WritesFraction (digitsOf ds) ('.' :: ds)

inductive WritesSign : Bool → List Char → Prop
  | none : WritesSign true []
  | plus : WritesSign true ['+']
  | minus : WritesSign false ['-']

/-- The exponent of a number, with its letter. -/
inductive WritesExponent : Option (Bool × List Nat) → List Char → Prop
  | none : WritesExponent none []
  | some {e : Char} {positive : Bool} {sign ds : List Char} : e = 'e' ∨ e = 'E' →
      WritesSign positive sign → IsDigits ds →
      WritesExponent (some (positive, digitsOf ds)) (e :: sign ++ ds)

/-- A number: a minus or not, digits that start with a zero only where there is no other, a fraction
or not and an exponent or not. -/
inductive WritesNumeral : Numeral → List Char → Prop
  | mk {negative : Bool} {fraction : List Nat} {exponent : Option (Bool × List Nat)}
      {whole point power : List Char} : IsDigits whole → (whole.head? = some '0' → whole = ['0']) →
      WritesFraction fraction point → WritesExponent exponent power →
      WritesNumeral ⟨negative, digitsOf whole, fraction, exponent, .complete⟩
        ((if negative then ['-'] else []) ++ whole ++ point ++ power)

/-- A name in front of its colon, with blanks. -/
def WritesName (name : String) (w : List Char) : Prop :=
  ∃ a s b, Blanks a ∧ WritesString name s ∧ Blanks b ∧ w = a ++ s ++ b

mutual

/-- A value, from its first character to its last. -/
inductive Writes : Value → List Char → Prop
  | null : Writes .null ['n', 'u', 'l', 'l']
  | bool (b : Bool) : Writes (.bool b) (boolText b)
  | number {n : Numeral} {x : Number} {w : List Char} : WritesNumeral n w → n.value = .ok x →
      Writes (.number x) w
  | string {s : String} {w : List Char} : WritesString s w → Writes (.string s) w
  | emptyArray {b : List Char} : Blanks b → Writes (.array []) ('[' :: b ++ [']'])
  | array {vs : List Value} {w : List Char} : WritesItems vs w →
      Writes (.array vs) ('[' :: w ++ [']'])
  | emptyObject {b : List Char} : Blanks b → Writes (.object []) (openBrace :: b ++ [closeBrace])
  | object {ms : List (String × Value)} {w : List Char} : WritesMembers ms w →
      Writes (.object ms) (openBrace :: w ++ [closeBrace])

/-- A value with blanks around it. -/
inductive WritesPadded : Value → List Char → Prop
  | mk {v : Value} {a w b : List Char} : Blanks a → Writes v w → Blanks b →
      WritesPadded v (a ++ w ++ b)

/-- Items, at least one, with commas between them. -/
inductive WritesItems : List Value → List Char → Prop
  | last {v : Value} {w : List Char} : WritesPadded v w → WritesItems [v] w
  | cons {v : Value} {vs : List Value} {w rest : List Char} : WritesPadded v w →
      WritesItems vs rest → WritesItems (v :: vs) (w ++ ',' :: rest)

/-- Members, at least one, with commas between them. -/
inductive WritesMembers : List (String × Value) → List Char → Prop
  | last {name : String} {v : Value} {k w : List Char} : WritesName name k → WritesPadded v w →
      WritesMembers [(name, v)] (k ++ ':' :: w)
  | cons {name : String} {v : Value} {ms : List (String × Value)} {k w rest : List Char} :
      WritesName name k → WritesPadded v w → WritesMembers ms rest →
      WritesMembers ((name, v) :: ms) (k ++ ':' :: w ++ ',' :: rest)

end

/-- A text of one value, with blanks around it. -/
def WritesText (text : String) (v : Value) : Prop := WritesPadded v text.toList

/-! ## Blanks -/

theorem blanks_nil : Blanks [] := fun _ hc => absurd hc List.not_mem_nil

theorem Blanks.append {a b : List Char} (ha : Blanks a) (hb : Blanks b) : Blanks (a ++ b) := by
  intro c hc
  rcases List.mem_append.1 hc with h | h
  · exact ha c h
  · exact hb c h

theorem blanks_newLine (level : Nat) : Blanks (newLine level) := by
  intro c hc
  rw [newLine, List.mem_cons, List.mem_replicate] at hc
  rcases hc with rfl | ⟨-, rfl⟩ <;> rfl

/-! ## Printed strings -/

/-- The four digits of a control are its number. -/
theorem unit?_control {n : Nat} (h : n < 32) :
    unit? '0' '0' (Digits.hexDigit (n / 16)) (Digits.hexDigit (n % 16)) = some n := by
  have hall : ∀ n : Fin 32,
      unit? '0' '0' (Digits.hexDigit (n / 16)) (Digits.hexDigit (n % 16)) = some n.val := by decide
  exact hall ⟨n, h⟩

theorem writesChars_escape (c : Char) {cs w : List Char} (h : WritesChars cs w) :
    WritesChars (c :: cs) (escape c ++ w) := by
  unfold escape
  split
  · next hc => exact .escaped (by rw [hc]; rfl) h
  split
  · next hc => exact .escaped (by rw [hc]; rfl) h
  split
  · next hc => exact .escaped (by rw [hc]; rfl) h
  split
  · next hc => exact .escaped (by rw [hc]; rfl) h
  split
  · next hc => exact .escaped (by rw [hc]; rfl) h
  split
  · next hc => exact .escaped (by rw [hc]; rfl) h
  split
  · next hc => exact .escaped (by rw [hc]; rfl) h
  split
  · next hlow =>
    have hunit := WritesChars.unit (unit?_control hlow) (by omega) h
    rwa [Char.ofNat_toNat] at hunit
  · next hquote hslash _ _ _ _ _ hlow =>
    exact .plain hquote hslash (by omega) h

theorem writesChars_flatMap (cs : List Char) : WritesChars cs (cs.flatMap escape) := by
  induction cs with
  | nil => exact .nil
  | cons c cs ih => exact writesChars_escape c ih

theorem writesString_quoted (s : String) : WritesString s (quoted s) :=
  ⟨_, writesChars_flatMap s.toList, rfl⟩

theorem writes_optString (s : Option String) (level : Nat) :
    Writes (.optString s) (prettyChars level (.optString s)) := by
  cases s with
  | none => exact .null
  | some s => exact .string (writesString_quoted s)

/-! ## Printed objects -/

/-- Members on lines of their own, where each value is written by the rules. -/
theorem writesMembers_pretty {level : Nat} {ms : List (String × Value)} {b : List Char}
    (hne : ms ≠ []) (hms : ∀ m ∈ ms, Writes m.2 (prettyChars level m.2)) (hb : Blanks b) :
    WritesMembers ms (prettyMembers level ms ++ b) := by
  have hblank : Blanks [' '] := by simp [Blanks, isBlank]
  induction ms with
  | nil => exact absurd rfl hne
  | cons m ms ih =>
    obtain ⟨name, v⟩ := m
    have hv : Writes v (prettyChars level v) := hms _ List.mem_cons_self
    have hname : WritesName name (newLine level ++ quoted name) :=
      ⟨newLine level, quoted name, [], blanks_newLine level, writesString_quoted name, blanks_nil,
        (List.append_nil _).symm⟩
    cases ms with
    | nil =>
      have hlast := WritesMembers.last hname (.mk hblank hv hb)
      simpa [prettyMembers] using hlast
    | cons m ms =>
      have hrest := ih (by simp) (fun m hm => hms m (List.mem_cons_of_mem _ hm))
      have hcons := WritesMembers.cons hname (.mk hblank hv blanks_nil) hrest
      simpa [prettyMembers] using hcons

theorem writes_pretty {ms : List (String × Value)} (hne : ms ≠ [])
    (hms : ∀ m ∈ ms, Writes m.2 (prettyChars 1 m.2)) :
    WritesText (pretty (.object ms)) (.object ms) := by
  have hobject := WritesPadded.mk blanks_nil
    (.object (writesMembers_pretty hne hms (blanks_newLine 0))) blanks_nil
  cases ms with
  | nil => exact absurd rfl hne
  | cons m ms =>
    rw [WritesText, pretty, String.toList_ofList]
    simpa [prettyChars] using hobject

end PluginHost.Json
