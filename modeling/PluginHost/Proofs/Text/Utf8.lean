import PluginHost.Text.Utf8

/-!
# Reading what was written in UTF-8

A character is written in one to four bytes: a first byte that tells how many follow, and bytes that
carry six bits each.  Reading them gives the character back and takes just its bytes, so texts are
read as they were written, whatever comes after them.  There is no other way to write a character:
bytes that are read strictly are those that the text is written in.

    next on the bytes of a character gives the character                          (next_encodeChar)
    a character is read only from its own bytes                                (encodeChar_of_next)
    decodeLossy (encode cs) = cs                                                (decodeLossy_encode)
    string? bs = some s ↔ bs = ofString s                                     (string?_eq_some_iff)
    cutting bytes at the first zero cuts the text at the first zero character     (takeWhile_encode)
    cutting bytes at any byte below 128 cuts the text                        (encode_eq_append_cons)
-/

namespace PluginHost.Utf8

/-! ## Bytes that carry bits -/

/-- A byte that follows, with its six bits. -/
def follower (x : Nat) : UInt8 := .ofNat (x + 128)

theorem follower_bits {x : Nat} (h : x < 64) : (follower x &&& 0x3F).toNat = x := by
  have hall : ∀ x : Fin 64, (follower x &&& 0x3F).toNat = x := by decide
  exact hall ⟨x, h⟩

/-- A byte that follows is in any range that its bits are in. -/
theorem follower_between {x lo hi : Nat} (hlo : lo ≤ x) (hx : x ≤ hi) (hhi : hi < 64) :
    follower lo ≤ follower x ∧ follower x ≤ follower hi := by
  simp only [follower, UInt8.le_iff_toNat_le, UInt8.toNat_ofNat']
  omega

theorem tail_follower {n lo hi code x : Nat} (hlo : lo ≤ x) (hx : x ≤ hi) (hhi : hi < 64)
    (rest : List UInt8) :
    tail (n + 1) (follower lo) (follower hi) code (follower x :: rest)
      = ((tail n (follower 0) (follower 63) (code * 64 + x) rest).1,
        (tail n (follower 0) (follower 63) (code * 64 + x) rest).2 + 1) := by
  rw [tail, if_pos (follower_between hlo hx hhi), follower_bits (by omega)]
  rfl

/-- A first byte, its bits, and what may follow. -/
structure Leads (b : UInt8) (n : Nat) (lo hi : Nat) (bits : Nat) : Prop where
  long : ¬ b < 0x80
  follows : continuation b = some (n, follower lo, follower hi)
  bits : leadBits n b = bits

theorem leads_two {a : Nat} (h : 2 ≤ a) (ha : a < 32) : Leads (.ofNat (a + 192)) 1 0 63 a := by
  have hall : ∀ a : Fin 32, 2 ≤ a.val → ¬ UInt8.ofNat (a + 192) < 0x80 ∧
      continuation (.ofNat (a + 192)) = some (1, follower 0, follower 63) ∧
      leadBits 1 (.ofNat (a + 192)) = a := by decide
  obtain ⟨h₁, h₂, h₃⟩ := hall ⟨a, ha⟩ h
  exact ⟨h₁, h₂, h₃⟩

theorem leads_three {a : Nat} (ha : a < 16) :
    Leads (.ofNat (a + 224)) 2 (if a = 0 then 32 else 0) (if a = 13 then 31 else 63) a := by
  have hall : ∀ a : Fin 16, ¬ UInt8.ofNat (a + 224) < 0x80 ∧
      continuation (.ofNat (a + 224)) = some (2, follower (if a.val = 0 then 32 else 0),
        follower (if a.val = 13 then 31 else 63)) ∧
      leadBits 2 (.ofNat (a + 224)) = a := by decide
  obtain ⟨h₁, h₂, h₃⟩ := hall ⟨a, ha⟩
  exact ⟨h₁, h₂, h₃⟩

theorem leads_four {a : Nat} (ha : a < 5) :
    Leads (.ofNat (a + 240)) 3 (if a = 0 then 16 else 0) (if a = 4 then 15 else 63) a := by
  have hall : ∀ a : Fin 5, ¬ UInt8.ofNat (a + 240) < 0x80 ∧
      continuation (.ofNat (a + 240)) = some (3, follower (if a.val = 0 then 16 else 0),
        follower (if a.val = 4 then 15 else 63)) ∧
      leadBits 3 (.ofNat (a + 240)) = a := by decide
  obtain ⟨h₁, h₂, h₃⟩ := hall ⟨a, ha⟩
  exact ⟨h₁, h₂, h₃⟩

theorem Leads.next {b : UInt8} {n lo hi bits : Nat} (h : Leads b n lo hi bits)
    (rest : List UInt8) :
    Utf8.next b rest = ((tail n (follower lo) (follower hi) bits rest).1.map Char.ofNat,
      (tail n (follower lo) (follower hi) bits rest).2) := by
  rw [Utf8.next, if_neg h.long, h.follows]
  simp only [h.bits]

/-! ## Characters -/

/-- The bytes of a character are read as that character, and no more bytes are taken. -/
theorem next_encodeChar (c : Char) (rest : List UInt8) :
    ∃ b bs, String.utf8EncodeChar c = b :: bs ∧ next b (bs ++ rest) = (some c, bs.length) := by
  have hof : Char.ofNat c.val.toNat = c := Char.ofNat_toNat c
  have hvalid : c.val.toNat < 55296 ∨ 57343 < c.val.toNat ∧ c.val.toNat < 1114112 := c.valid
  simp only [String.utf8EncodeChar]
  generalize c.val.toNat = v at hof hvalid ⊢
  split
  · -- one byte
    refine ⟨_, [], rfl, ?_⟩
    have hb : (UInt8.ofNat v).toNat = v := by
      rw [UInt8.toNat_ofNat']
      omega
    rw [next, if_pos (by rw [UInt8.lt_iff_toNat_lt, hb]; show v < 128; omega), hb, hof]
    rfl
  split
  · refine ⟨_, [follower (v % 64)], rfl, ?_⟩
    have hv : v / 64 % 32 * 64 + v % 64 = v := by omega
    rw [(leads_two (a := v / 64 % 32) (by omega) (by omega)).next, List.cons_append,
      List.nil_append, tail_follower (by omega) (by omega) (by omega), hv]
    simp only [tail, Option.map_some, hof]
    rfl
  split
  · refine ⟨_, [follower (v / 64 % 64), follower (v % 64)], rfl, ?_⟩
    have hv : (v / 4096 % 16 * 64 + v / 64 % 64) * 64 + v % 64 = v := by omega
    rw [(leads_three (a := v / 4096 % 16) (by omega)).next, List.cons_append, List.cons_append,
      List.nil_append, tail_follower (by split <;> omega) (by split <;> omega) (by split <;> omega),
      tail_follower (by omega) (by omega) (by omega), hv]
    simp only [tail, Option.map_some, hof]
    rfl
  · refine ⟨_, [follower (v / 4096 % 64), follower (v / 64 % 64), follower (v % 64)], rfl, ?_⟩
    have hlead : v / 262144 % 8 = v / 262144 := by omega
    have hv : ((v / 262144 * 64 + v / 4096 % 64) * 64 + v / 64 % 64) * 64 + v % 64 = v := by omega
    rw [hlead, (leads_four (a := v / 262144) (by omega)).next, List.cons_append, List.cons_append,
      List.cons_append, List.nil_append,
      tail_follower (by split <;> omega) (by split <;> omega) (by split <;> omega),
      tail_follower (by omega) (by omega) (by omega), tail_follower (by omega) (by omega) (by omega),
      hv]
    simp only [tail, Option.map_some, hof]
    rfl

/-- A character below 128 is written in one byte, any other in bytes of at least 128. -/
theorem encodeChar_cases (c : Char) :
    c.val.toNat < 128 ∧ String.utf8EncodeChar c = [.ofNat c.val.toNat] ∨
      ∀ b ∈ String.utf8EncodeChar c, 128 ≤ b.toNat := by
  have hvalid : c.val.toNat < 1114112 := by
    have : c.val.toNat < 55296 ∨ 57343 < c.val.toNat ∧ c.val.toNat < 1114112 := c.valid
    omega
  simp only [String.utf8EncodeChar]
  generalize c.val.toNat = v at hvalid ⊢
  split
  · exact .inl ⟨by omega, rfl⟩
  · have hbyte : ∀ n, 128 ≤ n → n < 256 → 128 ≤ (UInt8.ofNat n).toNat := by
      intro n hn hlt
      rw [UInt8.toNat_ofNat']
      omega
    refine .inr fun b hb => ?_
    split at hb
    · simp only [List.mem_cons, List.not_mem_nil, or_false] at hb
      rcases hb with rfl | rfl <;> exact hbyte _ (by omega) (by omega)
    split at hb
    · simp only [List.mem_cons, List.not_mem_nil, or_false] at hb
      rcases hb with rfl | rfl | rfl <;> exact hbyte _ (by omega) (by omega)
    · simp only [List.mem_cons, List.not_mem_nil, or_false] at hb
      rcases hb with rfl | rfl | rfl | rfl <;> exact hbyte _ (by omega) (by omega)

theorem encodeChar_zero : String.utf8EncodeChar '\x00' = [0] := by decide

/-- Only the zero character is written with a zero byte. -/
theorem ne_zero_of_mem_encodeChar {c : Char} (hc : c ≠ '\x00') :
    ∀ b ∈ String.utf8EncodeChar c, b ≠ 0 := by
  have hne : c.val.toNat ≠ 0 := fun h => hc (Char.ext (UInt32.toNat_inj.1 h))
  rintro b hb rfl
  have hz : (0 : UInt8).toNat = 0 := rfl
  rcases encodeChar_cases c with ⟨hlt, he⟩ | hlong
  · rw [he, List.mem_singleton] at hb
    have h := congrArg UInt8.toNat hb
    rw [UInt8.toNat_ofNat'] at h
    omega
  · have h := hlong 0 hb
    omega

/-! ## Characters that are read -/

theorem follower_of_between {lo hi : Nat} (hlo : lo < 64) (hhi : hi < 64) {b : UInt8}
    (h : follower lo ≤ b ∧ b ≤ follower hi) : ∃ x, lo ≤ x ∧ x ≤ hi ∧ b = follower x := by
  obtain ⟨h₁, h₂⟩ := h
  simp only [follower, UInt8.le_iff_toNat_le, UInt8.toNat_ofNat'] at h₁ h₂
  refine ⟨b.toNat - 128, by omega, by omega, UInt8.toNat_inj.1 ?_⟩
  rw [follower, UInt8.toNat_ofNat']
  omega

/-- Where one more byte is read, it follows, and the others are read behind it. -/
theorem tail_succ_eq_some {n lo hi code v k : Nat} {rest : List UInt8} (hlo : lo < 64)
    (hhi : hi < 64) (h : tail (n + 1) (follower lo) (follower hi) code rest = (some v, k)) :
    ∃ x rest' k', lo ≤ x ∧ x ≤ hi ∧ rest = follower x :: rest' ∧ k = k' + 1 ∧
      tail n (follower 0) (follower 63) (code * 64 + x) rest' = (some v, k') := by
  cases rest with
  | nil => simp [tail] at h
  | cons b rest =>
    by_cases hb : follower lo ≤ b ∧ b ≤ follower hi
    · obtain ⟨x, hx₁, hx₂, rfl⟩ := follower_of_between hlo hhi hb
      rw [tail_follower hx₁ hx₂ hhi, Prod.mk.injEq] at h
      exact ⟨x, rest, _, hx₁, hx₂, rfl, h.2.symm, Prod.ext h.1 rfl⟩
    · rw [tail, if_neg hb] at h
      simp at h

theorem tail_zero_eq_some {lo hi : UInt8} {code v k : Nat} {rest : List UInt8}
    (h : tail 0 lo hi code rest = (some v, k)) : v = code ∧ k = 0 := by
  rw [tail, Prod.mk.injEq, Option.some.injEq] at h
  exact ⟨h.1.symm, h.2.symm⟩

/-- What is read behind a first byte gives the bits of the character. -/
theorem Leads.tail_of_next {b : UInt8} {n lo hi bits : Nat} (h : Leads b n lo hi bits)
    {rest : List UInt8} {c : Char} {k : Nat} (hn : Utf8.next b rest = (some c, k)) :
    ∃ v, c = Char.ofNat v ∧ tail n (follower lo) (follower hi) bits rest = (some v, k) := by
  rw [h.next, Prod.mk.injEq, Option.map_eq_some_iff] at hn
  obtain ⟨⟨v, hv, rfl⟩, hk⟩ := hn
  exact ⟨v, rfl, Prod.ext hv hk⟩

/-- A byte stands alone, leads nothing, or leads two, three or four bytes. -/
theorem lead_cases (b : UInt8) : b < 0x80 ∨ ¬ b < 0x80 ∧ continuation b = none ∨
    (∃ a, 2 ≤ a ∧ a < 32 ∧ b = .ofNat (a + 192)) ∨ (∃ a, a < 16 ∧ b = .ofNat (a + 224)) ∨
    ∃ a, a < 5 ∧ b = .ofNat (a + 240) := by
  have hall : ∀ v : Fin 256, UInt8.ofNat v < 0x80 ∨
      ¬ UInt8.ofNat v < 0x80 ∧ continuation (.ofNat v) = none ∨ 194 ≤ v.val ∧ v.val < 245 := by
    decide +kernel
  have hb := hall ⟨b.toNat, b.toNat_lt⟩
  rw [UInt8.ofNat_toNat] at hb
  rcases hb with h | h | ⟨h₁, h₂⟩
  · exact .inl h
  · exact .inr (.inl h)
  · have hof : ∀ m, m ≤ b.toNat → b = .ofNat (b.toNat - m + m) := fun m hm => by
      rw [Nat.sub_add_cancel hm, UInt8.ofNat_toNat]
    dsimp only at h₁ h₂
    rcases Nat.lt_or_ge b.toNat 224 with h | h
    · exact .inr (.inr (.inl ⟨b.toNat - 192, by omega, by omega, hof _ (by omega)⟩))
    rcases Nat.lt_or_ge b.toNat 240 with h' | h'
    · exact .inr (.inr (.inr (.inl ⟨b.toNat - 224, by omega, hof _ h⟩)))
    · exact .inr (.inr (.inr (.inr ⟨b.toNat - 240, by omega, hof _ h'⟩)))

theorem val_ofNat {n : Nat} (h : n.isValidChar) : (Char.ofNat n).val.toNat = n := by
  rw [Char.ofNat, dif_pos h]
  rfl

theorem encodeChar_two {a x : Nat} (h : 2 ≤ a) (ha : a < 32) (hx : x ≤ 63) :
    String.utf8EncodeChar (.ofNat (a * 64 + x)) = [.ofNat (a + 192), follower x] := by
  simp only [String.utf8EncodeChar, val_ofNat (n := a * 64 + x) (.inl (by omega))]
  rw [if_neg (by omega), if_pos (by omega), follower, show (a * 64 + x) / 64 % 32 = a by omega,
    show (a * 64 + x) % 64 = x by omega]

theorem encodeChar_three {a x y : Nat} (ha : a < 16) (hlo : (if a = 0 then 32 else 0) ≤ x)
    (hhi : x ≤ if a = 13 then 31 else 63) (hy : y ≤ 63) :
    String.utf8EncodeChar (.ofNat ((a * 64 + x) * 64 + y))
      = [.ofNat (a + 224), follower x, follower y] := by
  have hx : x ≤ 63 := by split at hhi <;> omega
  -- the upper bound of the second byte keeps out surrogates, the lower one what fits in two bytes
  have hvalid : ((a * 64 + x) * 64 + y).isValidChar := by
    split at hhi
    · exact .inl (by omega)
    · rcases Nat.lt_or_ge a 13 with h | h
      · exact .inl (by omega)
      · exact .inr ⟨by omega, by omega⟩
  have hlong : 2047 < (a * 64 + x) * 64 + y := by split at hlo <;> omega
  simp only [String.utf8EncodeChar, val_ofNat hvalid]
  generalize hv : (a * 64 + x) * 64 + y = v at hlong
  rw [if_neg (by omega), if_neg (by omega), if_pos (by omega), follower, follower,
    show v / 4096 % 16 = a by omega, show v / 64 % 64 = x by omega, show v % 64 = y by omega]

theorem encodeChar_four {a x y z : Nat} (ha : a < 5) (hlo : (if a = 0 then 16 else 0) ≤ x)
    (hhi : x ≤ if a = 4 then 15 else 63) (hy : y ≤ 63) (hz : z ≤ 63) :
    String.utf8EncodeChar (.ofNat (((a * 64 + x) * 64 + y) * 64 + z))
      = [.ofNat (a + 240), follower x, follower y, follower z] := by
  have hx : x ≤ 63 := by split at hhi <;> omega
  -- the lower bound keeps out what fits in three bytes, the upper one what is no code point
  have hlong : 65535 < ((a * 64 + x) * 64 + y) * 64 + z := by split at hlo <;> omega
  have hvalid : (((a * 64 + x) * 64 + y) * 64 + z).isValidChar :=
    .inr ⟨by omega, by split at hhi <;> omega⟩
  simp only [String.utf8EncodeChar, val_ofNat hvalid]
  generalize hv : ((a * 64 + x) * 64 + y) * 64 + z = v at hlong
  rw [if_neg (by omega), if_neg (by omega), if_neg (by omega), follower, follower, follower,
    show v / 262144 % 8 = a by omega, show v / 4096 % 64 = x by omega,
    show v / 64 % 64 = y by omega, show v % 64 = z by omega]

/-- The bytes that a character is read from are those that it is written in. -/
theorem encodeChar_of_next {b : UInt8} {rest : List UInt8} {c : Char} {k : Nat}
    (h : next b rest = (some c, k)) : String.utf8EncodeChar c = b :: rest.take k := by
  rcases lead_cases b with hb | ⟨hb, hnone⟩ | ⟨a, h₂, ha, rfl⟩ | ⟨a, ha, rfl⟩ | ⟨a, ha, rfl⟩
  · rw [next, if_pos hb, Prod.mk.injEq, Option.some.injEq] at h
    obtain ⟨rfl, rfl⟩ := h
    have hlt : b.toNat < 128 := UInt8.lt_iff_toNat_lt.1 hb
    simp only [String.utf8EncodeChar, val_ofNat (n := b.toNat) (.inl (by omega))]
    rw [if_pos (by omega), UInt8.ofNat_toNat, List.take_zero]
  · rw [next, if_neg hb, hnone] at h
    simp at h
  · obtain ⟨v, rfl, ht⟩ := (leads_two h₂ ha).tail_of_next h
    obtain ⟨x, rest, k, -, hx, rfl, rfl, ht₀⟩ := tail_succ_eq_some (by omega) (by omega) ht
    obtain ⟨rfl, rfl⟩ := tail_zero_eq_some ht₀
    exact encodeChar_two h₂ ha hx
  · obtain ⟨v, rfl, ht⟩ := (leads_three ha).tail_of_next h
    obtain ⟨x, rest, k, hlo, hhi, rfl, rfl, ht₁⟩ :=
      tail_succ_eq_some (by split <;> omega) (by split <;> omega) ht
    obtain ⟨y, rest, k, -, hy, rfl, rfl, ht₀⟩ := tail_succ_eq_some (by omega) (by omega) ht₁
    obtain ⟨rfl, rfl⟩ := tail_zero_eq_some ht₀
    exact encodeChar_three ha hlo hhi hy
  · obtain ⟨v, rfl, ht⟩ := (leads_four ha).tail_of_next h
    obtain ⟨x, rest, k, hlo, hhi, rfl, rfl, ht₂⟩ :=
      tail_succ_eq_some (by split <;> omega) (by split <;> omega) ht
    obtain ⟨y, rest, k, -, hy, rfl, rfl, ht₁⟩ := tail_succ_eq_some (by omega) (by omega) ht₂
    obtain ⟨z, rest, k, -, hz, rfl, rfl, ht₀⟩ := tail_succ_eq_some (by omega) (by omega) ht₁
    obtain ⟨rfl, rfl⟩ := tail_zero_eq_some ht₀
    exact encodeChar_four ha hlo hhi hy hz

/-! ## Texts -/

theorem encode_cons (c : Char) (cs : List Char) :
    encode (c :: cs) = String.utf8EncodeChar c ++ encode cs := List.flatMap_cons

/-- What was written is read back. -/
theorem decodeLossy_encode (cs : List Char) : decodeLossy (encode cs) = cs := by
  induction cs with
  | nil => rw [encode, List.flatMap_nil, decodeLossy]
  | cons c cs ih =>
    obtain ⟨b, bs, hc, hn⟩ := next_encodeChar c (encode cs)
    rw [encode_cons, hc, List.cons_append, decodeLossy, hn, List.drop_left, ih]
    rfl

/-- Bytes are a text just if they are the bytes it is written in. -/
theorem decode?_eq_some_iff {bs : List UInt8} {cs : List Char} :
    decode? bs = some cs ↔ bs = encode cs := by
  constructor
  · intro h
    fun_induction decode? bs generalizing cs with
    | case1 =>
      obtain rfl := Option.some.inj h
      rfl
    | case2 => cases h
    | case3 b rest c k hn ih =>
      obtain ⟨cs, hcs, rfl⟩ := Option.map_eq_some_iff.1 h
      rw [encode_cons, encodeChar_of_next hn, List.cons_append, ← ih hcs, List.take_append_drop]
  · rintro rfl
    induction cs with
    | nil => rw [encode, List.flatMap_nil, decode?]
    | cons c cs ih =>
      obtain ⟨b, bs, hc, hn⟩ := next_encodeChar c (encode cs)
      rw [encode_cons, hc, List.cons_append, decode?, hn]
      simp only [List.drop_left, ih, Option.map_some]

theorem string?_eq_some_iff {bs : List UInt8} {s : String} :
    string? bs = some s ↔ bs = ofString s := by
  rw [string?, Option.map_eq_some_iff, ofString]
  constructor
  · rintro ⟨cs, hcs, rfl⟩
    rw [String.toList_ofList]
    exact decode?_eq_some_iff.1 hcs
  · exact fun h => ⟨s.toList, decode?_eq_some_iff.2 h, String.ofList_toList⟩

/-- The bytes before the first zero are those of the characters before the first zero. -/
theorem takeWhile_encode (cs : List Char) :
    (encode cs).takeWhile (· ≠ 0) = encode (cs.takeWhile (· ≠ '\x00')) := by
  induction cs with
  | nil => rfl
  | cons c cs ih =>
    by_cases hc : c = '\x00'
    · rw [encode_cons, hc, encodeChar_zero, List.takeWhile_cons_of_neg (by simp)]
      rfl
    · have hbytes : ∀ b ∈ String.utf8EncodeChar c, decide (b ≠ 0) = true := fun b hb =>
        decide_eq_true (ne_zero_of_mem_encodeChar hc b hb)
      rw [encode_cons, List.takeWhile_append_of_pos hbytes, ih,
        List.takeWhile_cons_of_pos (by simpa using hc), encode_cons]

/-- A byte below 128 is cut out as a character. -/
theorem encode_eq_append_cons {cs : List Char} {l r : List UInt8} {b : UInt8}
    (hb : b.toNat < 128) (h : encode cs = l ++ b :: r) :
    ∃ ls rs, l = encode ls ∧ r = encode rs := by
  induction cs generalizing l with
  | nil => simp [encode] at h
  | cons c cs ih =>
    rw [encode_cons] at h
    rcases List.append_eq_append_iff.1 h with ⟨l', rfl, hrest⟩ | ⟨r', hc, hr⟩
    · obtain ⟨ls, rs, rfl, rfl⟩ := ih hrest
      exact ⟨c :: ls, rs, (encode_cons c ls).symm, rfl⟩
    · cases r' with
      | nil =>
        obtain ⟨ls, rs, hl, rfl⟩ := ih (l := []) hr.symm
        rw [List.append_nil] at hc
        exact ⟨[c], rs, by rw [← hc, encode_cons, encode, List.flatMap_nil, List.append_nil], rfl⟩
      | cons a r' =>
        -- the byte is one of the character's, so it is the only one
        obtain ⟨rfl, rfl⟩ := List.cons.inj hr
        rcases encodeChar_cases c with ⟨-, hone⟩ | hlong
        · rcases List.append_eq_singleton_iff.1 (hone ▸ hc.symm) with ⟨rfl, hb⟩ | ⟨-, hnil⟩
          · obtain ⟨-, rfl⟩ := List.cons.inj hb
            exact ⟨[], cs, rfl, rfl⟩
          · cases hnil
        · have := hlong b (by rw [hc]; simp)
          omega

end PluginHost.Utf8
