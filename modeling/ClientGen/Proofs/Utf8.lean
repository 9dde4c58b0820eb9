import ClientGen.Text.Utf8
import Mathlib.Data.List.Basic

namespace ClientGen.Text.Utf8
variable {position : Nat} {b : UInt8} {s : Utf8Open} {bs : List UInt8}

def encode (cs : List Char) : List UInt8 :=
  cs.flatMap String.utf8EncodeChar

theorem not_lt_of_toNat_le (a : UInt8) (h : a.toNat ≤ b.toNat) : ¬b < a :=
  UInt8.not_lt.2 (UInt8.le_iff_toNat_le.2 h)

theorem start_one (h : b.toNat < 0x80) : start position b = .char (Char.ofNat b.toNat) := by
  rw [start, if_pos (UInt8.lt_iff_toNat_lt.2 h)]

theorem start_two (hlow : 0xc2 ≤ b.toNat) (h : b.toNat < 0xe0) :
    start position b = .sequence ⟨position, b, b.toNat - 0xc0, 0, 0x80, 0xbf⟩ := by
  rw [start, if_neg (not_lt_of_toNat_le 0x80 (Nat.le_trans (by decide) hlow)),
    if_neg (not_lt_of_toNat_le 0xc2 hlow), if_pos (UInt8.lt_iff_toNat_lt.2 h)]

theorem start_three (hlow : 0xe0 ≤ b.toNat) (h : b.toNat < 0xf0) :
    start position b = .sequence ⟨position, b, b.toNat - 0xe0, 1,
      if b == 0xe0 then 0xa0 else 0x80, if b == 0xed then 0x9f else 0xbf⟩ := by
  rw [start, if_neg (not_lt_of_toNat_le 0x80 (Nat.le_trans (by decide) hlow)),
    if_neg (not_lt_of_toNat_le 0xc2 (Nat.le_trans (by decide) hlow)),
    if_neg (not_lt_of_toNat_le 0xe0 hlow), if_pos (UInt8.lt_iff_toNat_lt.2 h)]

theorem start_four (hlow : 0xf0 ≤ b.toNat) (h : b.toNat < 0xf5) :
    start position b = .sequence ⟨position, b, b.toNat - 0xf0, 2,
      if b == 0xf0 then 0x90 else 0x80, if b == 0xf4 then 0x8f else 0xbf⟩ := by
  rw [start, if_neg (not_lt_of_toNat_le 0x80 (Nat.le_trans (by decide) hlow)),
    if_neg (not_lt_of_toNat_le 0xc2 (Nat.le_trans (by decide) hlow)),
    if_neg (not_lt_of_toNat_le 0xe0 (Nat.le_trans (by decide) hlow)),
    if_neg (not_lt_of_toNat_le 0xf0 hlow), if_pos (UInt8.lt_iff_toNat_lt.2 h)]

theorem decodeFrom_last (hfurther : s.further = 0) (hlow : s.low.toNat ≤ b.toNat)
    (hhigh : b.toNat ≤ s.high.toNat) :
    decodeFrom position (some s) (b :: bs) =
      (decodeFrom (position + 1) none bs).map
        (Char.ofNat (s.value * 64 + (b.toNat - 0x80)) :: ·) := by
  have hr : (s.low ≤ b && b ≤ s.high) = true := by
    simp only [UInt8.le_iff_toNat_le, hlow, hhigh, decide_true, Bool.and_self]
  rw [decodeFrom, if_pos hr, hfurther]

theorem decodeFrom_further {further : Nat} (hfurther : s.further = further + 1)
    (hlow : s.low.toNat ≤ b.toNat) (hhigh : b.toNat ≤ s.high.toNat) :
    decodeFrom position (some s) (b :: bs) =
      decodeFrom (position + 1)
        (some { s with value := s.value * 64 + (b.toNat - 0x80), further, low := 0x80, high := 0xbf })
        bs := by
  have hr : (s.low ≤ b && b ≤ s.high) = true := by
    simp only [UInt8.le_iff_toNat_le, hlow, hhigh, decide_true, Bool.and_self]
  rw [decodeFrom, if_pos hr, hfurther]

section
variable {b₁ b₂ b₃ b₄ : UInt8}

theorem decodeFrom_one (h : b.toNat < 0x80) :
    decodeFrom position none (b :: bs) =
      (decodeFrom (position + 1) none bs).map (Char.ofNat b.toNat :: ·) := by
  rw [decodeFrom, start_one h]

theorem decodeFrom_two (hlow : 0xc2 ≤ b₁.toNat) (h : b₁.toNat < 0xe0) (h₂ : 0x80 ≤ b₂.toNat)
    (h₂' : b₂.toNat ≤ 0xbf) :
    decodeFrom position none (b₁ :: b₂ :: bs) =
      (decodeFrom (position + 2) none bs).map
        (Char.ofNat ((b₁.toNat - 0xc0) * 64 + (b₂.toNat - 0x80)) :: ·) := by
  rw [decodeFrom, start_two hlow h]
  exact decodeFrom_last rfl h₂ h₂'

/-- The second of three bytes is held to what makes neither a shorter sequence nor half of a
surrogate pair. -/
theorem decodeFrom_three (hlow : 0xe0 ≤ b₁.toNat) (h : b₁.toNat < 0xf0) (h₂ : 0x80 ≤ b₂.toNat)
    (h₂' : b₂.toNat ≤ 0xbf) (hshort : b₁.toNat = 0xe0 → 0xa0 ≤ b₂.toNat)
    (hhalf : b₁.toNat = 0xed → b₂.toNat ≤ 0x9f) (h₃ : 0x80 ≤ b₃.toNat) (h₃' : b₃.toNat ≤ 0xbf) :
    decodeFrom position none (b₁ :: b₂ :: b₃ :: bs) =
      (decodeFrom (position + 3) none bs).map
        (Char.ofNat (((b₁.toNat - 0xe0) * 64 + (b₂.toNat - 0x80)) * 64 + (b₃.toNat - 0x80)) :: ·) := by
  rw [decodeFrom, start_three hlow h]
  dsimp only
  rw [decodeFrom_further rfl]
  · exact decodeFrom_last rfl h₃ h₃'
  · dsimp only
    split
    · next he => exact hshort (congrArg UInt8.toNat (eq_of_beq he))
    · exact h₂
  · dsimp only
    split
    · next he => exact hhalf (congrArg UInt8.toNat (eq_of_beq he))
    · exact h₂'

/-- The second of four bytes is held to what makes neither a shorter sequence nor more than there
are characters. -/
theorem decodeFrom_four (hlow : 0xf0 ≤ b₁.toNat) (h : b₁.toNat < 0xf5) (h₂ : 0x80 ≤ b₂.toNat)
    (h₂' : b₂.toNat ≤ 0xbf) (hshort : b₁.toNat = 0xf0 → 0x90 ≤ b₂.toNat)
    (hmax : b₁.toNat = 0xf4 → b₂.toNat ≤ 0x8f) (h₃ : 0x80 ≤ b₃.toNat) (h₃' : b₃.toNat ≤ 0xbf)
    (h₄ : 0x80 ≤ b₄.toNat) (h₄' : b₄.toNat ≤ 0xbf) :
    decodeFrom position none (b₁ :: b₂ :: b₃ :: b₄ :: bs) =
      (decodeFrom (position + 4) none bs).map
        (Char.ofNat ((((b₁.toNat - 0xf0) * 64 + (b₂.toNat - 0x80)) * 64 + (b₃.toNat - 0x80)) * 64
          + (b₄.toNat - 0x80)) :: ·) := by
  rw [decodeFrom, start_four hlow h]
  dsimp only
  rw [decodeFrom_further rfl]
  · rw [decodeFrom_further rfl]
    · exact decodeFrom_last rfl h₄ h₄'
    · exact h₃
    · exact h₃'
  · dsimp only
    split
    · next he => exact hshort (congrArg UInt8.toNat (eq_of_beq he))
    · exact h₂
  · dsimp only
    split
    · next he => exact hmax (congrArg UInt8.toNat (eq_of_beq he))
    · exact h₂'

end

theorem toNat_ofNat {n : Nat} (h : n < 0x100) : (UInt8.ofNat n).toNat = n :=
  UInt8.toNat_ofNat_of_lt h

theorem decodeFrom_encodeChar (c : Char) :
    decodeFrom position none (String.utf8EncodeChar c ++ bs) =
      (decodeFrom (position + (String.utf8EncodeChar c).length) none bs).map (c :: ·) := by
  have hc : c.toNat < 0xd800 ∨ 0xdfff < c.toNat ∧ c.toNat < 0x110000 := c.valid
  have hsame : ∀ n, n = c.toNat → Char.ofNat n = c := by
    rintro _ rfl
    exact Char.ofNat_toNat c
  have hval : c.val.toNat = c.toNat := rfl
  unfold String.utf8EncodeChar
  dsimp only
  rw [hval]
  split
  · have h₁ := toNat_ofNat (n := c.toNat) (by omega)
    rw [List.cons_append, List.nil_append, decodeFrom_one (by omega), hsame _ h₁]
    rfl
  split
  · have h₁ := toNat_ofNat (n := c.toNat / 64 % 32 + 192) (by omega)
    have h₂ := toNat_ofNat (n := c.toNat % 64 + 128) (by omega)
    rw [List.cons_append, List.cons_append, List.nil_append, decodeFrom_two, hsame]
    · rfl
    all_goals omega
  split
  · have h₁ := toNat_ofNat (n := c.toNat / 4096 % 16 + 224) (by omega)
    have h₂ := toNat_ofNat (n := c.toNat / 64 % 64 + 128) (by omega)
    have h₃ := toNat_ofNat (n := c.toNat % 64 + 128) (by omega)
    rw [List.cons_append, List.cons_append, List.cons_append, List.nil_append, decodeFrom_three, hsame]
    · rfl
    all_goals omega
  · have h₁ := toNat_ofNat (n := c.toNat / 262144 % 8 + 240) (by omega)
    have h₂ := toNat_ofNat (n := c.toNat / 4096 % 64 + 128) (by omega)
    have h₃ := toNat_ofNat (n := c.toNat / 64 % 64 + 128) (by omega)
    have h₄ := toNat_ofNat (n := c.toNat % 64 + 128) (by omega)
    rw [List.cons_append, List.cons_append, List.cons_append, List.cons_append, List.nil_append,
      decodeFrom_four, hsame]
    · rfl
    all_goals omega

theorem decodeFrom_encode (cs : List Char) : decodeFrom position none (encode cs) = .ok cs := by
  induction cs generalizing position with
  | nil => rfl
  | cons c cs ih =>
    rw [encode, List.flatMap_cons, decodeFrom_encodeChar]
    change (decodeFrom _ none (encode cs)).map _ = _
    rw [ih]
    rfl

/-- Every text can be stored and read again. -/
theorem decode_encode (cs : List Char) : decode (encode cs) = .ok cs :=
  decodeFrom_encode cs

end ClientGen.Text.Utf8
