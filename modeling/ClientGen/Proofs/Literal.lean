import ClientGen.Text.Quoted
import Mathlib.Algebra.Group.Nat.Defs

namespace ClientGen.Text
open Unicode

def digitValue? (c : Char) : Option Nat :=
  if 0x30 ≤ c.toNat ∧ c.toNat ≤ 0x39 then some (c.toNat - 0x30)
  else if 0x61 ≤ c.toNat ∧ c.toNat ≤ 0x66 then some (c.toNat - 0x57)
  else if 0x41 ≤ c.toNat ∧ c.toNat ≤ 0x46 then some (c.toNat - 0x37)
  else none

/-- The characters that stand for a character behind a backslash. -/
def charEscapes : List (Char × Char) :=
  [('\\', '\\'), ('\'', '\''), ('"', '"'), ('n', '\n'), ('r', '\r'), ('t', '\t')]

/-- The characters that announce a code point behind a backslash, and how many digits come after its
first one. -/
def codeEscapes : List (Char × Nat) :=
  [('x', 1), ('u', 3), ('U', 7)]

/-- Where the reader of a literal stands. -/
inductive LiteralState where
  | plain
  | escaped
  /-- Before a digit of a code point, with the number of digits after it and the value of those
  before. -/
  | digits (more value : Nat)

def consText (c : Char) : Option (List Char × List Char) → Option (List Char × List Char)
  | some (text, rest) => some (c :: text, rest)
  | none => none

/-- Reads a literal up to its mark, and gives the rest as well. Only the escapes that quoted text
has are read. -/
def readUpTo (mark : Char) : LiteralState → List Char → Option (List Char × List Char)
  | _, [] => none
  | .plain, c :: cs =>
    if c = mark then some ([], cs)
    else if c = '\\' then readUpTo mark .escaped cs
    else if c = '\n' ∨ c = '\r' then none
    else consText c (readUpTo mark .plain cs)
  | .escaped, c :: cs =>
    match charEscapes.lookup c, codeEscapes.lookup c with
    | some meant, _ => consText meant (readUpTo mark .plain cs)
    | none, some more => readUpTo mark (.digits more 0) cs
    | none, none => none
  | .digits more value, c :: cs =>
    match digitValue? c with
    | none => none
    | some d =>
      match more with
      | more + 1 => readUpTo mark (.digits more (16 * value + d)) cs
      | 0 =>
        if (16 * value + d).isValidChar then
          consText (Char.ofNat (16 * value + d)) (readUpTo mark .plain cs)
        else none

/-- Reads a literal in marks of one character, and gives the rest as well. -/
def readLiteral : List Char → Option (List Char × List Char)
  | [] => none
  | mark :: cs => if mark = '\'' ∨ mark = '"' then readUpTo mark .plain cs else none

theorem digitValue?_hexDigit : ∀ n < 16, digitValue? (hexDigit n) = some n := by
  decide

theorem readUpTo_hexDigits (mark : Char) (width more value n : Nat) (rest : List Char) :
    readUpTo mark (.digits (width + more) value) (hexDigits width n ++ rest) =
      readUpTo mark (.digits more (16 ^ width * value + n % 16 ^ width)) rest := by
  induction width generalizing more n rest with
  | zero => simp [hexDigits, Nat.mod_one]
  | succ width ih =>
    have hd := digitValue?_hexDigit (n % 16) (Nat.mod_lt n (by decide))
    have hv : 16 * (16 ^ width * value + n / 16 % 16 ^ width) + n % 16 =
        16 ^ (width + 1) * value + n % 16 ^ (width + 1) := by
      rw [Nat.pow_succ, Nat.mul_comm _ 16, Nat.mod_mul, Nat.mul_add, Nat.mul_assoc]
      omega
    rw [hexDigits, List.append_assoc, Nat.add_assoc, Nat.add_comm 1 more, ih, List.singleton_append]
    simp only [readUpTo, hd, hv]

theorem readUpTo_charEscape {mark letter meant : Char} (hm : mark ≠ '\\')
    (hl : charEscapes.lookup letter = some meant) (rest : List Char) :
    readUpTo mark .plain ('\\' :: letter :: rest) =
      consText meant (readUpTo mark .plain rest) := by
  rw [readUpTo, if_neg hm.symm, if_pos rfl, readUpTo, hl]

theorem readUpTo_codeEscape {mark letter c : Char} {more : Nat} (hm : mark ≠ '\\')
    (hl : charEscapes.lookup letter = none) (hk : codeEscapes.lookup letter = some more)
    (hc : c.toNat < 16 ^ (more + 1)) (rest : List Char) :
    readUpTo mark .plain ('\\' :: letter :: (hexDigits (more + 1) c.toNat ++ rest)) =
      consText c (readUpTo mark .plain rest) := by
  have hd := digitValue?_hexDigit (c.toNat % 16) (Nat.mod_lt _ (by decide))
  have hv : 16 * (16 ^ more * 0 + c.toNat / 16 % 16 ^ more) + c.toNat % 16 = c.toNat := by
    rw [Nat.pow_succ] at hc
    rw [Nat.mod_eq_of_lt (Nat.div_lt_of_lt_mul (by omega))]
    omega
  -- all digits but the last one lead to the state before the last one
  have hlast := readUpTo_hexDigits mark more 0 0 (c.toNat / 16) (hexDigit (c.toNat % 16) :: rest)
  rw [Nat.add_zero] at hlast
  rw [readUpTo, if_neg hm.symm, if_pos rfl, readUpTo, hl, hk, hexDigits, List.append_assoc,
    List.singleton_append]
  simp only [hlast, readUpTo, hd, hv, Char.ofNat_toNat]
  exact if_pos c.valid

theorem toNat_lt (c : Char) : c.toNat < 0x110000 := by
  have h := c.valid
  simp only [UInt32.isValidChar, Nat.isValidChar] at h
  change c.val.toNat < _
  omega

theorem readUpTo_codePointEscape {mark : Char} (hm : mark ≠ '\\') (c : Char) (rest : List Char) :
    readUpTo mark .plain (codePointEscape c.toNat ++ rest) =
      consText c (readUpTo mark .plain rest) := by
  have hc := toNat_lt c
  rw [codePointEscape]
  split
  · exact readUpTo_codeEscape hm (by decide) (by decide) (by omega) rest
  · split
    · exact readUpTo_codeEscape hm (by decide) (by decide) (by omega) rest
    · exact readUpTo_codeEscape hm (by decide) (by decide) (by omega) rest

theorem readUpTo_quoteChar {mark : Char} (hm : mark = '\'' ∨ mark = '"') (c : Char)
    (rest : List Char) :
    readUpTo mark .plain (quoteChar mark c ++ rest) = consText c (readUpTo mark .plain rest) := by
  have hne : mark ≠ '\\' := by
    rcases hm with rfl | rfl <;> decide
  rw [quoteChar]
  split
  · next h =>
    rw [Bool.or_eq_true, beq_iff_eq, beq_iff_eq] at h
    apply readUpTo_charEscape hne
    rcases h with rfl | rfl
    · rcases hm with rfl | rfl <;> decide
    · decide
  · next hself =>
    split
    · next hc =>
      cases eq_of_beq hc
      exact readUpTo_charEscape hne (by decide) rest
    · next hfeed =>
      split
      · next hc =>
        cases eq_of_beq hc
        exact readUpTo_charEscape hne (by decide) rest
      · next hreturn =>
        split
        · next hc =>
          cases eq_of_beq hc
          exact readUpTo_charEscape hne (by decide) rest
        · split
          · simp only [Bool.or_eq_true, beq_iff_eq, not_or] at hself hfeed hreturn
            rw [List.singleton_append, readUpTo, if_neg hself.1, if_neg hself.2,
              if_neg (not_or.2 ⟨hfeed, hreturn⟩)]
          · exact readUpTo_codePointEscape hne c rest

theorem readUpTo_mark {mark : Char} (hm : mark = '\'' ∨ mark = '"') (cs rest : List Char) :
    readUpTo mark .plain (cs.flatMap (quoteChar mark) ++ mark :: rest) = some (cs, rest) := by
  induction cs with
  | nil => rw [List.flatMap_nil, List.nil_append, readUpTo, if_pos rfl]
  | cons c cs ih =>
    rw [List.flatMap_cons, List.append_assoc, readUpTo_quoteChar hm, ih]
    rfl

theorem quoteMark_eq_or (cs : List Char) : quoteMark cs = '\'' ∨ quoteMark cs = '"' := by
  rw [quoteMark]
  split
  · exact .inr rfl
  · exact .inl rfl

/-- Quoted text is read back, whatever follows. -/
theorem readLiteral_quoteChars (cs rest : List Char) :
    readLiteral (quoteChars cs ++ rest) = some (cs, rest) := by
  have hm := quoteMark_eq_or cs
  rw [quoteChars, List.cons_append, List.append_assoc, List.singleton_append, readLiteral, if_pos hm]
  exact readUpTo_mark hm cs rest

end ClientGen.Text
