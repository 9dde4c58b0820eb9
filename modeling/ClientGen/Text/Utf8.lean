namespace ClientGen.Text

/-- Why bytes are no text. -/
inductive Utf8Reason where
  | invalidStart
  | invalidContinuation
  | unexpectedEnd
  deriving DecidableEq

/-- The bytes from `first` to `last` that are no text. -/
structure Utf8Fault where
  first : Nat
  last : Nat
  byte : UInt8
  reason : Utf8Reason
  deriving DecidableEq

def Utf8Reason.message : Utf8Reason → String
  | .invalidStart => "invalid start byte"
  | .invalidContinuation => "invalid continuation byte"
  | .unexpectedEnd => "unexpected end of data"

/-- The characters of an open sequence that are still to come. -/
structure Utf8Open where
  first : Nat
  byte : UInt8
  /-- The bits read so far. -/
  value : Nat
  further : Nat
  low : UInt8
  high : UInt8

namespace Utf8

/-- What a first byte opens. -/
inductive Start where
  | char (c : Char)
  | sequence (s : Utf8Open)
  | invalid

def start (position : Nat) (b : UInt8) : Start :=
  let n := b.toNat
  if b < 0x80 then .char (Char.ofNat n)
  else if b < 0xc2 then .invalid
  else if b < 0xe0 then .sequence ⟨position, b, n - 0xc0, 0, 0x80, 0xbf⟩
  else if b < 0xf0 then
    .sequence ⟨position, b, n - 0xe0, 1, if b == 0xe0 then 0xa0 else 0x80,
      if b == 0xed then 0x9f else 0xbf⟩
  else if b < 0xf5 then
    .sequence ⟨position, b, n - 0xf0, 2, if b == 0xf0 then 0x90 else 0x80,
      if b == 0xf4 then 0x8f else 0xbf⟩
  else .invalid

/-- Decodes the bytes from a position on, inside a sequence if one is open. -/
def decodeFrom (position : Nat) : Option Utf8Open → List UInt8 → Except Utf8Fault (List Char)
  | none, [] => .ok []
  | some s, [] => .error ⟨s.first, position - 1, s.byte, .unexpectedEnd⟩
  | none, b :: bs =>
    match start position b with
    | .char c => (decodeFrom (position + 1) none bs).map (c :: ·)
    | .sequence s => decodeFrom (position + 1) (some s) bs
    | .invalid => .error ⟨position, position, b, .invalidStart⟩
  | some s, b :: bs =>
    if s.low ≤ b && b ≤ s.high then
      let value := s.value * 64 + (b.toNat - 0x80)
      match s.further with
      | 0 => (decodeFrom (position + 1) none bs).map (Char.ofNat value :: ·)
      | further + 1 =>
        decodeFrom (position + 1) (some { s with value, further, low := 0x80, high := 0xbf }) bs
    else .error ⟨s.first, position - 1, s.byte, .invalidContinuation⟩

def decode (bytes : List UInt8) : Except Utf8Fault (List Char) :=
  decodeFrom 0 none bytes

end Utf8

end ClientGen.Text
