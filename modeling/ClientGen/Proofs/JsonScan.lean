import ClientGen.DescriptorFile
import ClientGen.Proofs.JsonValue

namespace ClientGen.Json
open Text

def IsGap (cs : List Char) : Prop :=
  ∀ c ∈ cs, c ∈ [' ', '\t', '\n', '\r']

instance (cs : List Char) : Decidable (IsGap cs) :=
  List.decidableBAll _ cs

def IsHexDigit (c : Char) (n : Nat) : Prop :=
  n < 16 ∧ (c = n.digitChar ∨ c = n.digitChar.toUpper)

/-- The four digits of a code unit. -/
inductive IsUnit : List Char → Nat → Prop where
  | digits {a b c d : Char} {i j k l : Nat} (ha : IsHexDigit a i) (hb : IsHexDigit b j)
    (hc : IsHexDigit c k) (hd : IsHexDigit d l) :
    IsUnit [a, b, c, d] (((i * 16 + j) * 16 + k) * 16 + l)

/-- Letters that stand for a character behind a backslash. -/
def escapes : List (Char × Char) :=
  [('"', '"'), ('\\', '\\'), ('/', '/'), ('b', '\x08'), ('f', '\x0c'), ('n', '\n'), ('r', '\r'),
    ('t', '\t')]

/-- The texts that stand for characters between quotes. -/
inductive IsQuoted : List Char → List Char → Prop where
  | done : IsQuoted [] []
  | plain {c : Char} {s cs : List Char} (quote : c ≠ '"') (backslash : c ≠ '\\')
    (control : 0x20 ≤ c.toNat) (rest : IsQuoted s cs) : IsQuoted (c :: s) (c :: cs)
  | escaped {e c : Char} {s cs : List Char} (escape : (e, c) ∈ escapes) (rest : IsQuoted s cs) :
    IsQuoted (c :: s) ('\\' :: e :: cs)
  | unit {c : Char} {s digits cs : List Char} (unit : IsUnit digits c.toNat) (rest : IsQuoted s cs) :
    IsQuoted (c :: s) ('\\' :: 'u' :: digits ++ cs)
  | pair {c : Char} {s highDigits lowDigits cs : List Char} {high low : Nat}
    (highUnit : IsUnit highDigits (0xd800 + high)) (lowUnit : IsUnit lowDigits (0xdc00 + low))
    (highBound : high < 0x400) (lowBound : low < 0x400)
    (value : c.toNat = 0x10000 + high * 0x400 + low) (rest : IsQuoted s cs) :
    IsQuoted (c :: s) ('\\' :: 'u' :: highDigits ++ '\\' :: 'u' :: lowDigits ++ cs)

def words : List (List Char × Datum) :=
  [(['n', 'u', 'l', 'l'], .null), (['t', 'r', 'u', 'e'], .flag true),
    (['f', 'a', 'l', 's', 'e'], .flag false)]

theorem eq_of_mem_words {cs : List Char} {d : Datum} (h : (cs, d) ∈ words) :
    cs = ['n', 'u', 'l', 'l'] ∧ d = .null ∨ cs = ['t', 'r', 'u', 'e'] ∧ d = .flag true ∨
      cs = ['f', 'a', 'l', 's', 'e'] ∧ d = .flag false := by
  simpa only [words, List.mem_cons, List.not_mem_nil, or_false, Prod.mk.injEq] using h

/-- The texts of an integer. Zero may have a sign. -/
def IsInteger (z : Int) (cs : List Char) : Prop :=
  cs = (toString z).toList ∨ z = 0 ∧ cs = ['-', '0']

/-- Whether characters can be written as they are: none is a quote, a backslash or a control. -/
def IsVerbatim (cs : List Char) : Prop :=
  ∀ c ∈ cs, c ≠ '"' ∧ c ≠ '\\' ∧ 0x20 ≤ c.toNat

instance (cs : List Char) : Decidable (IsVerbatim cs) :=
  List.decidableBAll _ cs

theorem IsQuoted.plainly {s cs : List Char} (h : IsQuoted s cs) :
    ∀ t : List Char, IsVerbatim t → IsQuoted (t ++ s) (t ++ cs)
  | [], _ => h
  | c :: t, ht => by
    obtain ⟨quote, backslash, control⟩ := ht c List.mem_cons_self
    exact .plain quote backslash control (h.plainly t fun x hx => ht x (List.mem_cons_of_mem _ hx))

theorem isQuoted_self {cs : List Char} (h : IsVerbatim cs) : IsQuoted cs cs := by
  have hq := IsQuoted.done.plainly cs h
  rwa [List.append_nil] at hq

theorem unifyNewlines_cons {c : Char} (h : c ≠ '\r') (cs : List Char) :
    unifyNewlines (c :: cs) = c :: unifyNewlines cs := by
  have hb : (c == '\r') = false := beq_eq_false_iff_ne.2 h
  rw [unifyNewlines, hb]
  · rfl
  · intro _ hc
    exact absurd hc h

theorem unifyNewlines_append {cs : List Char} (h : '\r' ∉ cs) (rest : List Char) :
    unifyNewlines (cs ++ rest) = cs ++ unifyNewlines rest := by
  induction cs with
  | nil => rfl
  | cons c cs ih =>
    simp only [List.mem_cons, not_or] at h
    rw [List.cons_append, unifyNewlines_cons (Ne.symm h.1), ih h.2, List.cons_append]

theorem lexemesFrom_space {c : Char} (h : isSpace c = true) (position : Nat) (cs : List Char) :
    lexemesFrom position (c :: cs) = lexemesFrom (position + 1) cs := by
  rw [lexemesFrom, if_pos h]

theorem unifyNewlines_return (cs : List Char) :
    unifyNewlines ('\r' :: cs) = '\n' :: unifyNewlines cs ∨
      ∃ cs', cs = '\n' :: cs' ∧ unifyNewlines ('\r' :: cs) = '\n' :: unifyNewlines cs' := by
  rw [unifyNewlines.eq_def ('\r' :: cs)]
  split
  · next h => cases h
  · next h =>
    cases h
    exact .inr ⟨_, rfl, rfl⟩
  · next h =>
    cases h
    exact .inl rfl

/-- Space is passed over, whatever becomes of the line end that it may end with. -/
theorem lexemesFrom_gap {gap : List Char} (h : IsGap gap) (rest : List Char) (position : Nat) :
    ∃ position', lexemesFrom position (unifyNewlines (gap ++ rest)) =
      lexemesFrom position' (unifyNewlines rest) := by
  induction gap generalizing position with
  | nil => exact ⟨position, rfl⟩
  | cons c gap ih =>
    have ih := ih fun x hx => h x (List.mem_cons_of_mem _ hx)
    have hc := h c List.mem_cons_self
    rw [List.cons_append]
    by_cases hr : c = '\r'
    · rw [hr]
      rcases unifyNewlines_return (gap ++ rest) with hu | ⟨cs, hcs, hu⟩
      · rw [hu, lexemesFrom_space rfl]
        exact ih (position + 1)
      · rw [hu, ← unifyNewlines_cons (by decide), ← hcs]
        exact ih position
    · have hs : isSpace c = true := by
        simp only [List.mem_cons, List.not_mem_nil, or_false] at hc
        rcases hc with rfl | rfl | rfl | rfl <;> rfl
      rw [unifyNewlines_cons hr, lexemesFrom_space hs]
      exact ih (position + 1)

theorem lexemesFrom_punctuation {c : Char} {l : Lexeme} (hs : isSpace c = false)
    (h : punctuation? c = some l) (position : Nat) (cs : List Char) :
    lexemesFrom position (c :: cs) = .next position l (lexemesFrom (position + 1) cs) := by
  rw [lexemesFrom, if_neg (Bool.eq_false_iff.1 hs), h]

section Quoted

theorem hexDigit?_of_isHexDigit {c : Char} {n : Nat} (h : IsHexDigit c n) : hexDigit? c = some n := by
  have hall : ∀ n < 16, hexDigit? n.digitChar = some n ∧ hexDigit? n.digitChar.toUpper = some n := by
    decide
  obtain ⟨hn, rfl | rfl⟩ := h
  · exact (hall n hn).1
  · exact (hall n hn).2

theorem le_toNat_of_isHexDigit {c : Char} {n : Nat} (h : IsHexDigit c n) : 0x20 ≤ c.toNat := by
  have hall : ∀ n < 16, 0x20 ≤ n.digitChar.toNat ∧ 0x20 ≤ n.digitChar.toUpper.toNat := by
    decide
  obtain ⟨hn, rfl | rfl⟩ := h
  · exact (hall n hn).1
  · exact (hall n hn).2

theorem le_toNat_of_isUnit {digits : List Char} {n : Nat} (h : IsUnit digits n) :
    ∀ c ∈ digits, 0x20 ≤ c.toNat := by
  obtain ⟨ha, hb, hc, hd⟩ := h
  simp only [List.mem_cons, List.not_mem_nil, or_false]
  rintro x (rfl | rfl | rfl | rfl)
  · exact le_toNat_of_isHexDigit ha
  · exact le_toNat_of_isHexDigit hb
  · exact le_toNat_of_isHexDigit hc
  · exact le_toNat_of_isHexDigit hd

theorem escapes_spec {e c : Char} (h : (e, c) ∈ escapes) :
    simpleEscape? e = some c ∧ e ≠ 'u' ∧ 0x20 ≤ e.toNat := by
  have hall : ∀ p ∈ escapes, simpleEscape? p.1 = some p.2 ∧ p.1 ≠ 'u' ∧ 0x20 ≤ p.1.toNat := by
    decide
  exact hall (e, c) h

theorem IsQuoted.le_toNat {s cs : List Char} (h : IsQuoted s cs) : ∀ c ∈ cs, 0x20 ≤ c.toNat := by
  induction h with
  | done =>
    intro c hc
    cases hc
  | plain quote backslash control rest ih =>
    intro x hx
    rcases List.mem_cons.1 hx with rfl | hx
    · exact control
    · exact ih x hx
  | escaped escape rest ih =>
    intro x hx
    rcases List.mem_cons.1 hx with rfl | hx
    · decide
    rcases List.mem_cons.1 hx with rfl | hx
    · exact (escapes_spec escape).2.2
    · exact ih x hx
  | unit unit rest ih =>
    intro x hx
    simp only [List.cons_append, List.mem_cons, List.mem_append] at hx
    rcases hx with rfl | rfl | hx | hx
    · decide
    · decide
    · exact le_toNat_of_isUnit unit x hx
    · exact ih x hx
  | pair highUnit lowUnit highBound lowBound value rest ih =>
    intro x hx
    simp only [List.cons_append, List.mem_cons, List.mem_append, List.append_assoc] at hx
    rcases hx with rfl | rfl | hx | rfl | rfl | hx | hx
    · decide
    · decide
    · exact le_toNat_of_isUnit highUnit x hx
    · decide
    · decide
    · exact le_toNat_of_isUnit lowUnit x hx
    · exact ih x hx

variable {start position : Nat} {rest : List Char}

theorem isHighSurrogate_char (c : Char) : isHighSurrogate c.toNat = false := by
  have hc : c.toNat < 0xd800 ∨ 0xdfff < c.toNat ∧ c.toNat < 0x110000 := c.valid
  rw [isHighSurrogate, Bool.eq_false_iff, ne_eq, Bool.and_eq_true, Nat.ble_eq, Nat.ble_eq]
  omega

theorem joinUnits_char (c : Char) (units : List Nat) :
    joinUnits (c.toNat :: units) = c.toNat :: joinUnits units := by
  cases units with
  | nil => rfl
  | cons n units =>
    rw [joinUnits.eq_def]
    dsimp only
    rw [isHighSurrogate_char]
    rfl

theorem joinUnits_pair {high low : Nat} (hh : high < 0x400) (hl : low < 0x400) (units : List Nat) :
    joinUnits ((0xd800 + high) :: (0xdc00 + low) :: units) =
      (0x10000 + high * 0x400 + low) :: joinUnits units := by
  have hpair : (isHighSurrogate (0xd800 + high) && isLowSurrogate (0xdc00 + low)) = true := by
    simp only [isHighSurrogate, isLowSurrogate, Bool.and_eq_true, Nat.ble_eq]
    omega
  rw [joinUnits.eq_def]
  dsimp only
  rw [if_pos hpair, Nat.add_sub_cancel_left, Nat.add_sub_cancel_left]

theorem scanText_plain {c : Char} (quote : c ≠ '"') (backslash : c ≠ '\\')
    (control : 0x20 ≤ c.toNat) :
    scanText start position (c :: rest) =
      (scanText start (position + 1) rest).map fun r => (c.toNat :: r.1, r.2) := by
  rw [scanText.eq_def]
  dsimp only
  rw [if_neg (mt eq_of_beq quote), if_neg (mt eq_of_beq backslash), if_neg (Nat.not_lt.2 control)]

theorem scanText_escaped {e c : Char} (h : simpleEscape? e = some c) (hu : e ≠ 'u') :
    scanText start position ('\\' :: e :: rest) =
      (scanText start (position + 2) rest).map fun r => (c.toNat :: r.1, r.2) := by
  rw [scanText.eq_def]
  dsimp only
  rw [if_neg (by decide), if_pos (beq_self_eq_true _), if_neg (mt eq_of_beq hu), h]

theorem scanText_unit {digits : List Char} {n : Nat} (h : IsUnit digits n) (hrest : rest ≠ []) :
    scanText start position ('\\' :: 'u' :: digits ++ rest) =
      (scanText start (position + 6) rest).map fun r => (n :: r.1, r.2) := by
  obtain ⟨ha, hb, hc, hd⟩ := h
  rw [List.cons_append, List.cons_append, List.cons_append, List.cons_append, List.cons_append,
    List.cons_append, List.nil_append, scanText, if_neg (by decide), if_pos (beq_self_eq_true _),
    if_pos (beq_self_eq_true _)]
  simp only [hexUnit?, hexDigit?_of_isHexDigit ha, hexDigit?_of_isHexDigit hb,
    hexDigit?_of_isHexDigit hc, hexDigit?_of_isHexDigit hd]
  rw [if_neg (by simpa using hrest)]

/-- Characters are read from any text that stands for them. -/
theorem scanText_quoted {s cs : List Char} (h : IsQuoted s cs) (start position : Nat)
    (rest : List Char) :
    ∃ units position', scanText start position (cs ++ '"' :: rest) = .ok (units, position', rest) ∧
      joinUnits units = s.map Char.toNat := by
  induction h generalizing position with
  | done =>
    refine ⟨[], position + 1, ?_, rfl⟩
    rw [List.nil_append, scanText.eq_def]
    rfl
  | @plain c s cs quote backslash control _ ih =>
    obtain ⟨units, position', hscan, hjoin⟩ := @ih (position + 1)
    refine ⟨c.toNat :: units, position', ?_, ?_⟩
    · rw [List.cons_append, scanText_plain quote backslash control, hscan]
      rfl
    · rw [joinUnits_char, hjoin, List.map_cons]
  | @escaped e c s cs escape _ ih =>
    obtain ⟨hescape, hu, -⟩ := escapes_spec escape
    obtain ⟨units, position', hscan, hjoin⟩ := @ih (position + 2)
    refine ⟨c.toNat :: units, position', ?_, ?_⟩
    · rw [List.cons_append, List.cons_append, scanText_escaped hescape hu, hscan]
      rfl
    · rw [joinUnits_char, hjoin, List.map_cons]
  | @unit c s digits cs unit _ ih =>
    obtain ⟨units, position', hscan, hjoin⟩ := @ih (position + 6)
    refine ⟨c.toNat :: units, position', ?_, ?_⟩
    · rw [List.append_assoc, scanText_unit unit (by simp), hscan]
      rfl
    · rw [joinUnits_char, hjoin, List.map_cons]
  | @pair c s highDigits lowDigits cs high low highUnit lowUnit highBound lowBound value _ ih =>
    obtain ⟨units, position', hscan, hjoin⟩ := @ih (position + 6 + 6)
    refine ⟨(0xd800 + high) :: (0xdc00 + low) :: units, position', ?_, ?_⟩
    · rw [List.append_assoc, List.append_assoc, scanText_unit highUnit (by simp),
        scanText_unit lowUnit (by simp), hscan]
      rfl
    · rw [joinUnits_pair highBound lowBound, hjoin, ← value, List.map_cons]

/-- A text in quotes is one lexeme. -/
theorem lexemesFrom_quoted {s cs : List Char} (h : IsQuoted s cs) (position : Nat)
    (rest : List Char) :
    ∃ position', lexemesFrom position (unifyNewlines ('"' :: cs ++ '"' :: rest)) =
      .next position (.text (s.map Char.toNat)) (lexemesFrom position' (unifyNewlines rest)) := by
  have hreturn : '\r' ∉ '"' :: cs := by
    simp only [List.mem_cons, not_or]
    exact ⟨by decide, fun hc => absurd (h.le_toNat _ hc) (by decide)⟩
  rw [unifyNewlines_append hreturn, unifyNewlines_cons (by decide), List.cons_append]
  obtain ⟨units, position', hscan, hjoin⟩ :=
    scanText_quoted h position (position + 1) (unifyNewlines rest)
  refine ⟨position', ?_⟩
  rw [lexemesFrom.eq_def]
  dsimp only
  rw [if_neg (by decide)]
  have hp : punctuation? '"' = none := rfl
  rw [hp]
  dsimp only
  rw [if_pos (beq_self_eq_true _)]
  split
  · next r hr =>
    cases hscan.symm.trans hr
    rw [hjoin]
  · next f hf => cases hscan.symm.trans hf

end Quoted

section Values
variable {position : Nat} {rest : List Char}

/-- What does not go on with a number: the end, space, or the punctuation behind a value. -/
def Ends (cs : List Char) : Prop :=
  ∀ c ∈ cs.head?, c ∈ [' ', '\t', '\n', '\r', ',', ']', '\x7d']

theorem Ends.head {c : Char} {cs : List Char} (h : Ends (c :: cs)) :
    c.isDigit = false ∧ c ≠ '.' ∧ c ≠ 'e' ∧ c ≠ 'E' := by
  have hc := h c rfl
  simp only [List.mem_cons, List.not_mem_nil, or_false] at hc
  rcases hc with rfl | rfl | rfl | rfl | rfl | rfl | rfl <;> decide

theorem Ends.unifyNewlines (h : Ends rest) : Ends (unifyNewlines rest) := by
  cases rest with
  | nil => exact h
  | cons c cs =>
    have hc := h c rfl
    by_cases hr : c = '\r'
    · have hhead : (Text.unifyNewlines (c :: cs)).head? = some '\n' := by
        rw [hr]
        rcases unifyNewlines_return cs with hu | ⟨cs', -, hu⟩
        · rw [hu, List.head?_cons]
        · rw [hu, List.head?_cons]
      intro x hx
      rw [hhead] at hx
      cases hx
      decide
    · rw [unifyNewlines_cons hr]
      exact fun x hx => h x hx

theorem lexemesFrom_value {c : Char} {cs : List Char} {v : Value} (hs : isSpace c = false)
    (hp : punctuation? c = none) (hq : c ≠ '"') (h : scanValue? (c :: cs) = some (v, rest)) :
    ∃ position', lexemesFrom position (c :: cs) =
      .next position (.value v) (lexemesFrom position' rest) := by
  refine ⟨position + ((c :: cs).length - rest.length), ?_⟩
  rw [lexemesFrom.eq_def]
  dsimp only
  rw [if_neg (Bool.eq_false_iff.1 hs), hp]
  dsimp only
  rw [if_neg (mt eq_of_beq hq)]
  split
  · next r hr =>
    cases h.symm.trans hr
    rfl
  · next hn => cases h.symm.trans hn

/-- The digits of a number: none in front of zeros. -/
inductive IsNumeral : List Char → Prop where
  | zero : IsNumeral ['0']
  | positive {c : Char} {cs : List Char} (first : c ≠ '0')
      (digits : ∀ x ∈ c :: cs, x.isDigit = true) :
    IsNumeral (c :: cs)

theorem head_toDigits {n : Nat} (h : 0 < n) : ∃ c cs, Nat.toDigits 10 n = c :: cs ∧ c ≠ '0' := by
  induction n using Nat.strongRecOn with
  | ind n ih =>
    by_cases hn : n < 10
    · refine ⟨n.digitChar, [], Nat.toDigits_of_lt_base hn, ?_⟩
      have hall : ∀ k < 10, 0 < k → k.digitChar ≠ '0' := by decide
      exact hall n hn h
    · obtain ⟨c, cs, hcs, hc⟩ := ih (n / 10) (by omega) (by omega)
      refine ⟨c, cs ++ [(n % 10).digitChar], ?_, hc⟩
      rw [Nat.toDigits_of_base_le (by decide) (Nat.not_lt.1 hn), hcs]
      rfl

theorem isNumeral_toDigits (n : Nat) : IsNumeral (Nat.toDigits 10 n) := by
  rcases Nat.eq_zero_or_pos n with rfl | hn
  · exact .zero
  · obtain ⟨c, cs, hcs, hc⟩ := head_toDigits hn
    rw [hcs]
    refine .positive hc fun x hx => ?_
    rw [← hcs] at hx
    exact Nat.isDigit_of_mem_toDigits (by decide) (by decide) hx

theorem isNumeral_of_isInteger {z : Int} {cs : List Char} (h : IsInteger z cs) :
    IsNumeral cs ∨ ∃ ds, cs = '-' :: ds ∧ IsNumeral ds := by
  rcases h with rfl | ⟨-, rfl⟩
  · cases z with
    | ofNat n =>
      have hn : (toString (Int.ofNat n)).toList = Nat.toDigits 10 n := String.toList_ofList
      rw [hn]
      exact .inl (isNumeral_toDigits n)
    | negSucc n =>
      have hn : (toString (Int.negSucc n)).toList = '-' :: Nat.toDigits 10 (n + 1) := by
        change ("-" ++ String.ofList (Nat.toDigits 10 (n + 1))).toList = _
        rw [String.toList_append]
        exact congrArg ('-' :: ·) String.toList_ofList
      exact .inr ⟨_, hn, isNumeral_toDigits (n + 1)⟩
  · exact .inr ⟨['0'], rfl, .zero⟩

theorem takeFraction_of_ends (before : List Char) (h : Ends rest) :
    takeFraction before rest = (before, rest) := by
  rw [takeFraction.eq_def]
  split
  · exact absurd rfl h.head.2.1
  · rfl

theorem takeExponent_of_ends (before : List Char) (h : Ends rest) :
    takeExponent before rest = (before, rest) := by
  rw [takeExponent.eq_def]
  split
  · rfl
  · next e cs =>
    obtain ⟨-, -, he, hE⟩ := h.head
    rw [beq_eq_false_iff_ne.2 he, beq_eq_false_iff_ne.2 hE]
    rfl

theorem takeDigits_of_ends (before : List Char) {ds : List Char} (hds : ∀ c ∈ ds, c.isDigit = true)
    (h : Ends rest) : takeDigits before (ds ++ rest) = (before ++ ds, rest) := by
  have hnone : rest.takeWhile Char.isDigit = [] ∧ rest.dropWhile Char.isDigit = rest := by
    cases rest with
    | nil => exact ⟨rfl, rfl⟩
    | cons c cs =>
      rw [List.takeWhile_cons, List.dropWhile_cons, h.head.1]
      exact ⟨rfl, rfl⟩
  rw [takeDigits, List.takeWhile_append_of_pos hds, List.dropWhile_append_of_pos hds, hnone.1,
    hnone.2, List.append_nil]

theorem scanUnsigned_numeral {ds : List Char} (h : IsNumeral ds) (hrest : Ends rest)
    (sign : List Char) : scanUnsigned sign (ds ++ rest) = some (sign ++ ds, rest) := by
  cases h with
  | zero =>
    rw [List.cons_append, List.nil_append, scanUnsigned, if_pos (by decide)]
    dsimp only
    rw [if_pos (beq_self_eq_true _), takeFraction_of_ends _ hrest, takeExponent_of_ends _ hrest]
  | @positive c cs first digits =>
    rw [List.cons_append, scanUnsigned, if_pos (digits c List.mem_cons_self)]
    dsimp only
    rw [if_neg (mt eq_of_beq first),
      takeDigits_of_ends _ (fun x hx => digits x (List.mem_cons_of_mem _ hx)) hrest,
      takeFraction_of_ends _ hrest, takeExponent_of_ends _ hrest, List.append_assoc]
    rfl

theorem IsNumeral.head {ds : List Char} (h : IsNumeral ds) :
    ∃ c cs, ds = c :: cs ∧ c.isDigit = true := by
  cases h with
  | zero => exact ⟨'0', [], rfl, rfl⟩
  | @positive c cs _ digits => exact ⟨c, cs, rfl, digits c List.mem_cons_self⟩

theorem ne_of_isDigit {c x : Char} (h : c.isDigit = true) (hx : x.isDigit = false) : x ≠ c := by
  rintro rfl
  cases h.symm.trans hx

theorem scanWord?_digit {c : Char} (h : c.isDigit = true) (cs : List Char) :
    scanWord? (c :: cs) = none ∧ scanWord? ('-' :: c :: cs) = none := by
  have hne := fun x hx => ne_of_isDigit (x := x) h hx
  have hwords : ∀ w ∈ wordValues, w.1.isPrefixOf (c :: cs) = false ∧
      w.1.isPrefixOf ('-' :: c :: cs) = false := by
    simp only [wordValues, List.mem_cons, List.not_mem_nil, or_false]
    rintro w (rfl | rfl | rfl | rfl | rfl | rfl)
    all_goals simp only [String.reduceToList]
    all_goals simp [List.isPrefixOf, hne]
  constructor
  · rw [scanWord?, List.findSome?_eq_none_iff]
    intro w hw
    rw [(hwords w hw).1]
    rfl
  · rw [scanWord?, List.findSome?_eq_none_iff]
    intro w hw
    rw [(hwords w hw).2]
    rfl

/-- An integer is a value as long as what follows does not go on with it. -/
theorem scanValue?_integer {z : Int} {cs : List Char} (h : IsInteger z cs) (hrest : Ends rest) :
    scanValue? (cs ++ rest) = some (.other (String.ofList cs), rest) := by
  rcases isNumeral_of_isInteger h with hn | ⟨ds, rfl, hn⟩
  · obtain ⟨c, cs, rfl, hc⟩ := hn.head
    have hscan := scanUnsigned_numeral hn hrest []
    rw [List.cons_append] at hscan ⊢
    rw [scanValue?, (scanWord?_digit hc _).1]
    · dsimp only
      rw [hscan]
      rfl
    · rintro ds heq
      cases heq
      cases hc
  · obtain ⟨c, cs, rfl, hc⟩ := hn.head
    have hscan := scanUnsigned_numeral hn hrest ['-']
    rw [List.cons_append] at hscan
    rw [List.cons_append, List.cons_append, scanValue?, (scanWord?_digit hc _).2]
    dsimp only
    rw [hscan]
    rfl

theorem IsNumeral.digits {ds : List Char} (h : IsNumeral ds) : ∀ c ∈ ds, c.isDigit = true := by
  cases h with
  | zero => exact List.forall_mem_singleton.2 rfl
  | positive _ digits => exact digits

theorem lexemesFrom_integer {z : Int} {cs : List Char} (h : IsInteger z cs) (hrest : Ends rest) :
    ∃ position', lexemesFrom position (unifyNewlines (cs ++ rest)) =
      .next position (.value (.other (String.ofList cs)))
        (lexemesFrom position' (unifyNewlines rest)) := by
  have hscan := scanValue?_integer h hrest.unifyNewlines
  rcases isNumeral_of_isInteger h with hn | ⟨ds, rfl, hn⟩
  · have hreturn : '\r' ∉ cs := fun hr => absurd (hn.digits _ hr) (by decide)
    rw [unifyNewlines_append hreturn]
    obtain ⟨c, cs, rfl, hc⟩ := hn.head
    have hne := fun x hx => (ne_of_isDigit (x := x) hc hx).symm
    apply lexemesFrom_value _ _ (hne '"' rfl) hscan
    · simp [isSpace, hne]
    · simp [punctuation?, hne]
  · have hreturn : '\r' ∉ '-' :: ds := by
      simp only [List.mem_cons, not_or]
      exact ⟨by decide, fun hr => absurd (hn.digits _ hr) (by decide)⟩
    rw [unifyNewlines_append hreturn]
    exact lexemesFrom_value rfl rfl (by decide) hscan

theorem lexemesFrom_word {cs : List Char} {d : Datum} (h : (cs, d) ∈ words) :
    ∃ position', lexemesFrom position (unifyNewlines (cs ++ rest)) =
      .next position (.value (.ofDatum d)) (lexemesFrom position' (unifyNewlines rest)) := by
  obtain ⟨rfl, rfl⟩ | ⟨rfl, rfl⟩ | ⟨rfl, rfl⟩ := eq_of_mem_words h
  all_goals
    rw [unifyNewlines_append (by decide)]
    exact lexemesFrom_value rfl rfl (by decide) rfl

end Values

end ClientGen.Json
