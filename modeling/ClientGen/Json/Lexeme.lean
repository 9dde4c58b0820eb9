import ClientGen.Json.Fault
import ClientGen.Json.Value

namespace ClientGen.Json

/-- A lexeme. -/
inductive Lexeme where
  | openObject
  | closeObject
  | openList
  | closeList
  | colon
  | comma
  | text (points : List Nat)
  /-- A number or a word that stands for a value. -/
  | value (v : Value)

/-- Why scanning stops. -/
inductive Stop where
  | endOfText
  | junk
  | brokenText (fault : Fault)

/-- The lexemes of a text with their offsets, up to where scanning stops. -/
inductive Lexemes where
  | stop (position : Nat) (why : Stop)
  | next (position : Nat) (lexeme : Lexeme) (rest : Lexemes)

def isSpace (c : Char) : Bool :=
  c == ' ' || c == '\t' || c == '\n' || c == '\r'

/-- The lexeme that a single character is. -/
def punctuation? (c : Char) : Option Lexeme :=
  if c == '\x7b' then some .openObject
  else if c == '\x7d' then some .closeObject
  else if c == '[' then some .openList
  else if c == ']' then some .closeList
  else if c == ':' then some .colon
  else if c == ',' then some .comma
  else none

def hexDigit? (c : Char) : Option Nat :=
  if '0' ≤ c ∧ c ≤ '9' then some (c.toNat - '0'.toNat)
  else if 'a' ≤ c ∧ c ≤ 'f' then some (c.toNat - 'a'.toNat + 10)
  else if 'A' ≤ c ∧ c ≤ 'F' then some (c.toNat - 'A'.toNat + 10)
  else none

/-- The number that four hexadecimal digits write. -/
def hexUnit? (a b c d : Char) : Option Nat :=
  match hexDigit? a, hexDigit? b, hexDigit? c, hexDigit? d with
  | some a, some b, some c, some d => some (((a * 16 + b) * 16 + c) * 16 + d)
  | _, _, _, _ => none

/-- The character that a backslash and a letter stand for. -/
def simpleEscape? (c : Char) : Option Char :=
  if c == '"' || c == '\\' || c == '/' then some c
  else if c == 'b' then some '\x08'
  else if c == 'f' then some '\x0c'
  else if c == 'n' then some '\n'
  else if c == 'r' then some '\r'
  else if c == 't' then some '\t'
  else none

/-- The code units of a text up to the closing quote, and what comes behind it at its offset.
`start` is the offset of the opening quote, `position` the offset of what is left. -/
def scanText (start position : Nat) : List Char → Except Fault (List Nat × Nat × List Char)
  | [] => .error ⟨.unterminatedText, start⟩
  | c :: cs =>
    if c == '"' then .ok ([], position + 1, cs)
    else if c == '\\' then
      match cs with
      | [] => .error ⟨.unterminatedText, start⟩
      | e :: cs =>
        if e == 'u' then
          match cs with
          | h₁ :: h₂ :: h₃ :: h₄ :: cs =>
            match hexUnit? h₁ h₂ h₃ h₄ with
            | some unit =>
              if cs.isEmpty then .error ⟨.invalidUnicodeEscape, position + 1⟩
              else (scanText start (position + 6) cs).map fun r => (unit :: r.1, r.2)
            | none => .error ⟨.invalidUnicodeEscape, position + 1⟩
          | _ => .error ⟨.invalidUnicodeEscape, position + 1⟩
        else
          match simpleEscape? e with
          | some x => (scanText start (position + 2) cs).map fun r => (x.toNat :: r.1, r.2)
          | none => .error ⟨.invalidEscape, position⟩
    else if c.toNat < 0x20 then .error ⟨.controlCharacter, position⟩
    else (scanText start (position + 1) cs).map fun r => (c.toNat :: r.1, r.2)

def isHighSurrogate (n : Nat) : Bool :=
  Nat.ble 0xd800 n && Nat.ble n 0xdbff

def isLowSurrogate (n : Nat) : Bool :=
  Nat.ble 0xdc00 n && Nat.ble n 0xdfff

/-- The code points of code units: a high surrogate and a low one behind it make one point, and half
of a pair stays as it is. -/
def joinUnits : List Nat → List Nat
  | [] => []
  | [n] => [n]
  | high :: low :: rest =>
    if isHighSurrogate high && isLowSurrogate low then
      (0x10000 + (high - 0xd800) * 0x400 + (low - 0xdc00)) :: joinUnits rest
    else high :: joinUnits (low :: rest)

/-- The digits in front, with the characters before them, and what is left. -/
def takeDigits (before : List Char) (cs : List Char) : List Char × List Char :=
  (before ++ cs.takeWhile Char.isDigit, cs.dropWhile Char.isDigit)

/-- A fraction, if a dot and a digit come next. -/
def takeFraction (before : List Char) : List Char → List Char × List Char
  | '.' :: d :: cs =>
    if d.isDigit then takeDigits (before ++ ['.', d]) cs else (before, '.' :: d :: cs)
  | cs => (before, cs)

def takeSign : List Char → List Char × List Char
  | [] => ([], [])
  | c :: cs => if c == '+' || c == '-' then ([c], cs) else ([], c :: cs)

/-- An exponent, if its mark and at least one digit come next. -/
def takeExponent (before : List Char) : List Char → List Char × List Char
  | [] => (before, [])
  | e :: cs =>
    if (e == 'e' || e == 'E') && ((takeSign cs).2.head?.any Char.isDigit) then
      takeDigits (before ++ e :: (takeSign cs).1) (takeSign cs).2
    else (before, e :: cs)

/-- The longest number in front whose sign is given, and what is left. -/
def scanUnsigned (sign : List Char) : List Char → Option (List Char × List Char)
  | [] => none
  | c :: cs =>
    if c.isDigit then
      let whole := if c == '0' then (sign ++ ['0'], cs) else takeDigits (sign ++ [c]) cs
      let fraction := takeFraction whole.1 whole.2
      some (takeExponent fraction.1 fraction.2)
    else none

def wordValues : List (List Char × Value) :=
  [("null".toList, .null), ("true".toList, .flag true), ("false".toList, .flag false),
    ("NaN".toList, .other "NaN"), ("Infinity".toList, .other "Infinity"),
    ("-Infinity".toList, .other "-Infinity")]

/-- The value that a word in front stands for, and what is left. -/
def scanWord? (cs : List Char) : Option (Value × List Char) :=
  wordValues.findSome? fun w =>
    if w.1.isPrefixOf cs then some (w.2, cs.drop w.1.length) else none

/-- The value in front that is a word or a number, and what is left. -/
def scanValue? (cs : List Char) : Option (Value × List Char) :=
  match scanWord? cs with
  | some r => some r
  | none =>
    let number :=
      match cs with
      | '-' :: rest => scanUnsigned ['-'] rest
      | _ => scanUnsigned [] cs
    number.map fun r => (.other (String.ofList r.1), r.2)

theorem map_eq_ok {ε α β : Type} {f : α → β} {x : Except ε α} {b : β} (h : x.map f = .ok b) :
    ∃ a, x = .ok a ∧ f a = b := by
  cases x with
  | error e => cases h
  | ok a => exact ⟨a, rfl, Except.ok.inj h⟩

theorem length_scanText {start position : Nat} {cs : List Char} {r : List Nat × Nat × List Char}
    (h : scanText start position cs = .ok r) : r.2.2.length < cs.length := by
  fun_induction scanText start position cs generalizing r with
  | case2 => cases h; simp
  | case5 _ _ _ _ _ _ _ _ _ _ _ _ _ _ ih =>
    obtain ⟨a, ha, rfl⟩ := map_eq_ok h
    have := ih ha
    simp only [List.length_cons]
    omega
  | case8 _ _ _ _ _ _ _ _ _ ih =>
    obtain ⟨a, ha, rfl⟩ := map_eq_ok h
    have := ih ha
    simp only [List.length_cons]
    omega
  | case11 _ _ _ _ _ _ ih =>
    obtain ⟨a, ha, rfl⟩ := map_eq_ok h
    have := ih ha
    simp only [List.length_cons]
    omega
  | _ => cases h

theorem length_takeDigits_le (before cs : List Char) :
    (takeDigits before cs).2.length ≤ cs.length :=
  List.IsSuffix.length_le (List.dropWhile_suffix _)

theorem length_takeFraction_le (before cs : List Char) :
    (takeFraction before cs).2.length ≤ cs.length := by
  unfold takeFraction
  split
  · split
    · have := length_takeDigits_le (before ++ ['.', ‹Char›]) ‹List Char›
      simp only [List.length_cons]
      omega
    · exact Nat.le_refl _
  · exact Nat.le_refl _

theorem length_takeSign_le (cs : List Char) : (takeSign cs).2.length ≤ cs.length := by
  unfold takeSign
  split
  · exact Nat.le_refl _
  · split <;> simp

theorem length_takeExponent_le (before cs : List Char) :
    (takeExponent before cs).2.length ≤ cs.length := by
  unfold takeExponent
  split
  · exact Nat.le_refl _
  · next e cs =>
    split
    · have := length_takeDigits_le (before ++ e :: (takeSign cs).1) (takeSign cs).2
      have := length_takeSign_le cs
      simp only [List.length_cons]
      omega
    · exact Nat.le_refl _

theorem length_scanUnsigned {sign cs : List Char} {r : List Char × List Char}
    (h : scanUnsigned sign cs = some r) : r.2.length < cs.length := by
  unfold scanUnsigned at h
  split at h
  · cases h
  · next c cs =>
    split at h
    · cases h
      refine Nat.lt_of_le_of_lt (Nat.le_trans (length_takeExponent_le _ _)
        (length_takeFraction_le _ _)) (Nat.lt_succ_of_le ?_)
      split
      · exact Nat.le_refl _
      · exact length_takeDigits_le _ _
    · cases h

theorem length_scanWord? {cs : List Char} {r : Value × List Char} (h : scanWord? cs = some r) :
    r.2.length < cs.length := by
  obtain ⟨w, hw, hr⟩ := List.exists_of_findSome?_eq_some h
  split at hr
  · next hp =>
    cases hr
    have hpos : 0 < w.1.length := by
      simp only [wordValues, List.mem_cons, List.not_mem_nil, or_false] at hw
      rcases hw with rfl | rfl | rfl | rfl | rfl | rfl <;> decide
    have := (List.isPrefixOf_iff_prefix.1 hp).length_le
    simp only [List.length_drop]
    omega
  · cases hr

theorem length_scanValue? {cs : List Char} {r : Value × List Char} (h : scanValue? cs = some r) :
    r.2.length < cs.length := by
  unfold scanValue? at h
  split at h
  · next hw => cases h; exact length_scanWord? hw
  · obtain ⟨a, ha, rfl⟩ := Option.map_eq_some_iff.1 h
    split at ha
    · have := length_scanUnsigned ha
      simp only [List.length_cons]
      omega
    · exact length_scanUnsigned ha

/-- The lexemes of a text, the first character of which has the given offset. -/
def lexemesFrom (position : Nat) (cs : List Char) : Lexemes :=
  match cs with
  | [] => .stop position .endOfText
  | c :: rest =>
    if isSpace c then lexemesFrom (position + 1) rest
    else
      match punctuation? c with
      | some l => .next position l (lexemesFrom (position + 1) rest)
      | none =>
        if c == '"' then
          match _h : scanText position (position + 1) rest with
          | .ok r => .next position (.text (joinUnits r.1)) (lexemesFrom r.2.1 r.2.2)
          | .error f => .stop position (.brokenText f)
        else
          match _h : scanValue? (c :: rest) with
          | some r =>
            .next position (.value r.1) (lexemesFrom (position + (cs.length - r.2.length)) r.2)
          | none => .stop position .junk
termination_by cs.length
decreasing_by
  · simp
  · simp
  · have := length_scanText _h
    simp only [List.length_cons]
    omega
  · exact length_scanValue? _h

def lexemes (cs : List Char) : Lexemes :=
  lexemesFrom 0 cs

end ClientGen.Json
