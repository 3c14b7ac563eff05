import Mathlib.Data.List.Basic
import ProviderBindings.Text.Utf8

/-! # Bytes are read back to the characters

The bytes of a character are taken one by one: the first says how many there are, and each of
the others adds six bits.  What is to be seen is that no byte is outside the limits that the
first one sets for the second; these keep out what no character is written as, so that the
argument needs the bounds of the code points of each length, and that no surrogate is one.
-/
namespace ProviderBindings.Text.Utf8

variable {pos n : Nat} {p : Partial} {rest : List UInt8}

/-- A character before what is decoded after it. -/
def withChar (c : Char) (decoded : Except Problem (List Char)) : Except Problem (List Char) :=
  decoded.map (c :: ·)

theorem toNat_byte (h : n < 256) : (UInt8.ofNat n).toNat = n := by
  rw [UInt8.toNat_ofNat']
  omega

/-! ## The first byte -/

theorem decodeFrom_whole {c : Char} {b : UInt8} (h : lead pos b = .whole c) :
    decodeFrom pos none (b :: rest) = withChar c (decodeFrom (pos + 1) none rest) := by
  rw [decodeFrom]
  simp only [h]
  rfl

theorem decodeFrom_opens {b : UInt8} (h : lead pos b = .opens p) :
    decodeFrom pos none (b :: rest) = decodeFrom (pos + 1) (some p) rest := by
  rw [decodeFrom]
  simp only [h]

theorem lead_one (h : n < 0x80) : lead pos (.ofNat n) = .whole (Char.ofNat n) := by
  have hn := toNat_byte (n := n) (by omega)
  have hlt : UInt8.ofNat n < 0x80 := by
    rw [UInt8.lt_iff_toNat_lt, hn]
    exact h
  rw [lead, if_pos hlt, hn]

/-- The limits of the second byte, by the first one. -/
theorem lead_two (h : 0xC2 ≤ n) (h' : n < 0xE0) :
    lead pos (.ofNat n) = .opens ⟨.ofNat n, pos, 1, 0x80, 0xBF, n - 0xC0⟩ := by
  have hn := toNat_byte (n := n) (by omega)
  unfold lead
  simp only [UInt8.lt_iff_toNat_lt, hn, UInt8.reduceToNat]
  rw [if_neg (by omega), if_neg (by omega), if_pos (by omega)]

theorem lead_three (h : 0xE0 ≤ n) (h' : n < 0xF0) : lead pos (.ofNat n) =
    .opens ⟨.ofNat n, pos, 2, if n = 0xE0 then 0xA0 else 0x80, if n = 0xED then 0x9F else 0xBF,
      n - 0xE0⟩ := by
  have hn := toNat_byte (n := n) (by omega)
  unfold lead
  simp only [UInt8.lt_iff_toNat_lt, ← UInt8.toNat_inj, hn, UInt8.reduceToNat]
  rw [if_neg (by omega), if_neg (by omega), if_neg (by omega), if_pos (by omega)]

theorem lead_four (h : 0xF0 ≤ n) (h' : n < 0xF5) : lead pos (.ofNat n) =
    .opens ⟨.ofNat n, pos, 3, if n = 0xF0 then 0x90 else 0x80, if n = 0xF4 then 0x8F else 0xBF,
      n - 0xF0⟩ := by
  have hn := toNat_byte (n := n) (by omega)
  unfold lead
  simp only [UInt8.lt_iff_toNat_lt, ← UInt8.toNat_inj, hn, UInt8.reduceToNat]
  rw [if_neg (by omega), if_neg (by omega), if_neg (by omega), if_neg (by omega),
    if_pos (by omega)]

/-! ## The bytes after it -/

/-- A byte that is not the last one. -/
theorem decodeFrom_owed (hn : n < 256) (howed : 1 < p.owed) (hlow : p.low.toNat ≤ n)
    (hhigh : n ≤ p.high.toNat) : decodeFrom pos (some p) (.ofNat n :: rest) = decodeFrom (pos + 1)
      (some ⟨p.first, p.start, p.owed - 1, 0x80, 0xBF, p.bits * 64 + (n - 0x80)⟩) rest := by
  have hbyte := toNat_byte hn
  have hlimits : p.low ≤ UInt8.ofNat n ∧ UInt8.ofNat n ≤ p.high := by
    rw [UInt8.le_iff_toNat_le, UInt8.le_iff_toNat_le, hbyte]
    exact ⟨hlow, hhigh⟩
  rw [decodeFrom]
  simp only [hlimits, and_self, if_true, hbyte, if_neg (Nat.not_le.mpr howed)]

/-- The last byte. -/
theorem decodeFrom_last (hn : n < 256) (howed : p.owed ≤ 1) (hlow : p.low.toNat ≤ n)
    (hhigh : n ≤ p.high.toNat) : decodeFrom pos (some p) (.ofNat n :: rest) =
      withChar (.ofNat (p.bits * 64 + (n - 0x80))) (decodeFrom (pos + 1) none rest) := by
  have hbyte := toNat_byte hn
  have hlimits : p.low ≤ UInt8.ofNat n ∧ UInt8.ofNat n ≤ p.high := by
    rw [UInt8.le_iff_toNat_le, UInt8.le_iff_toNat_le, hbyte]
    exact ⟨hlow, hhigh⟩
  rw [decodeFrom]
  simp only [hlimits, and_self, if_true, hbyte, if_pos howed]
  rfl

/-! ## Characters -/

section

variable {v : Nat}

theorem decodeFrom_two (h : 0x7F < v) (h' : v ≤ 0x7FF) : decodeFrom pos none
    (.ofNat (v / 64 % 32 + 192) :: .ofNat (v % 64 + 128) :: rest) =
      withChar (.ofNat v) (decodeFrom (pos + 2) none rest) := by
  have hlow : (0x80 : UInt8).toNat ≤ v % 64 + 128 := by show 128 ≤ _; omega
  have hhigh : v % 64 + 128 ≤ (0xBF : UInt8).toNat := by show _ ≤ 191; omega
  have hbits : (v / 64 % 32 + 192 - 0xC0) * 64 + (v % 64 + 128 - 0x80) = v := by omega
  rw [decodeFrom_opens (lead_two (by omega) (by omega)),
    decodeFrom_last (by omega) (Nat.le_refl 1) hlow hhigh, hbits]

theorem decodeFrom_three (h : 0x7FF < v) (h' : v ≤ 0xFFFF)
    (hsurrogate : ¬ (0xD800 ≤ v ∧ v ≤ 0xDFFF)) : decodeFrom pos none
    (.ofNat (v / 4096 % 16 + 224) :: .ofNat (v / 64 % 64 + 128) :: .ofNat (v % 64 + 128) :: rest) =
      withChar (.ofNat v) (decodeFrom (pos + 3) none rest) := by
  have hlow : (if v / 4096 % 16 + 224 = 0xE0 then 0xA0 else 0x80 : UInt8).toNat ≤
      v / 64 % 64 + 128 := by
    -- after the least first byte, what is below the second one's limit would be shorter
    split
    · show 160 ≤ _
      omega
    · show 128 ≤ _
      omega
  have hhigh : v / 64 % 64 + 128 ≤
      (if v / 4096 % 16 + 224 = 0xED then 0x9F else 0xBF : UInt8).toNat := by
    -- and what is above it after `0xED` would be a surrogate
    split
    · show _ ≤ 159
      omega
    · show _ ≤ 191
      omega
  have hlow' : (0x80 : UInt8).toNat ≤ v % 64 + 128 := by show 128 ≤ _; omega
  have hhigh' : v % 64 + 128 ≤ (0xBF : UInt8).toNat := by show _ ≤ 191; omega
  have hbits : ((v / 4096 % 16 + 224 - 0xE0) * 64 + (v / 64 % 64 + 128 - 0x80)) * 64 +
      (v % 64 + 128 - 0x80) = v := by omega
  rw [decodeFrom_opens (lead_three (by omega) (by omega)), decodeFrom_owed, decodeFrom_last, hbits]
  · omega
  · exact Nat.le_refl 1
  · exact hlow'
  · exact hhigh'
  · omega
  · exact Nat.lt_succ_self 1
  · exact hlow
  · exact hhigh

theorem decodeFrom_four (h : 0xFFFF < v) (h' : v < 0x110000) : decodeFrom pos none
    (.ofNat (v / 262144 % 8 + 240) :: .ofNat (v / 4096 % 64 + 128) :: .ofNat (v / 64 % 64 + 128) ::
      .ofNat (v % 64 + 128) :: rest) = withChar (.ofNat v) (decodeFrom (pos + 4) none rest) := by
  have hlow : (if v / 262144 % 8 + 240 = 0xF0 then 0x90 else 0x80 : UInt8).toNat ≤
      v / 4096 % 64 + 128 := by
    split
    · show 144 ≤ _
      omega
    · show 128 ≤ _
      omega
  have hhigh : v / 4096 % 64 + 128 ≤
      (if v / 262144 % 8 + 240 = 0xF4 then 0x8F else 0xBF : UInt8).toNat := by
    -- above it after `0xF4` there are no code points
    split
    · show _ ≤ 143
      omega
    · show _ ≤ 191
      omega
  have hlow' : (0x80 : UInt8).toNat ≤ v / 64 % 64 + 128 := by show 128 ≤ _; omega
  have hhigh' : v / 64 % 64 + 128 ≤ (0xBF : UInt8).toNat := by show _ ≤ 191; omega
  have hlow'' : (0x80 : UInt8).toNat ≤ v % 64 + 128 := by show 128 ≤ _; omega
  have hhigh'' : v % 64 + 128 ≤ (0xBF : UInt8).toNat := by show _ ≤ 191; omega
  have hbits : (((v / 262144 % 8 + 240 - 0xF0) * 64 + (v / 4096 % 64 + 128 - 0x80)) * 64 +
      (v / 64 % 64 + 128 - 0x80)) * 64 + (v % 64 + 128 - 0x80) = v := by omega
  rw [decodeFrom_opens (lead_four (by omega) (by omega)), decodeFrom_owed, decodeFrom_owed,
    decodeFrom_last, hbits]
  · omega
  · exact Nat.le_refl 1
  · exact hlow''
  · exact hhigh''
  · omega
  · exact Nat.lt_succ_self 1
  · exact hlow'
  · exact hhigh'
  · omega
  · show 1 < 3
    omega
  · exact hlow
  · exact hhigh

end

theorem toNat_bounds (c : Char) : c.toNat < 0x110000 ∧ ¬ (0xD800 ≤ c.toNat ∧ c.toNat ≤ 0xDFFF) := by
  rcases c.valid with h | ⟨h, h'⟩
  · have h : c.toNat < 0xD800 := h
    omega
  · have h : 0xDFFF < c.toNat := h
    have h' : c.toNat < 0x110000 := h'
    omega

/-- **A character is read back** from its bytes. -/
theorem decodeFrom_encodeChar (pos : Nat) (c : Char) (rest : List UInt8) : ∃ next,
    decodeFrom pos none (String.utf8EncodeChar c ++ rest) =
      withChar c (decodeFrom next none rest) := by
  obtain ⟨hlt, hsurrogate⟩ := toNat_bounds c
  have hc : Char.ofNat c.toNat = c := Char.ofNat_toNat c
  unfold String.utf8EncodeChar
  simp only [show c.val.toNat = c.toNat from rfl]
  generalize c.toNat = v at hlt hsurrogate hc
  subst hc
  by_cases hone : v ≤ 0x7F
  · rw [if_pos hone]
    exact ⟨_, decodeFrom_whole (lead_one (by omega))⟩
  · rw [if_neg hone]
    by_cases htwo : v ≤ 0x7FF
    · rw [if_pos htwo]
      exact ⟨_, decodeFrom_two (by omega) htwo⟩
    · rw [if_neg htwo]
      by_cases hthree : v ≤ 0xFFFF
      · rw [if_pos hthree]
        exact ⟨_, decodeFrom_three (by omega) hthree hsurrogate⟩
      · rw [if_neg hthree]
        exact ⟨_, decodeFrom_four (by omega) hlt⟩

theorem decodeFrom_encode (pos : Nat) (text : List Char) :
    decodeFrom pos none (encode text) = .ok text := by
  induction text generalizing pos with
  | nil => rfl
  | cons c rest ih =>
    obtain ⟨next, hnext⟩ := decodeFrom_encodeChar pos c (encode rest)
    rw [show encode (c :: rest) = String.utf8EncodeChar c ++ encode rest from rfl, hnext, ih]
    rfl

/-- **A text is read back** from its bytes. -/
theorem decode_encode (text : List Char) : decode (encode text) = .ok text :=
  decodeFrom_encode 0 text

end ProviderBindings.Text.Utf8
