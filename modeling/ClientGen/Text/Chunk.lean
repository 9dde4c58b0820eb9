import ClientGen.Unicode.Alphanumeric

namespace ClientGen.Text
open Unicode

/-- A part of a line that stays together. -/
abbrev Chunk := List Char

/-- Whether a chunk of spaces is made of the character. -/
def isWrapSpace (c : Char) : Bool :=
  c == ' ' || (Nat.ble 0x9 c.toNat && Nat.ble c.toNat 0xd)

/-- Tabs filled up to the next multiple of eight columns. A line feed and a carriage return go back
to the first column. -/
def expandTabs (column : Nat) : List Char → List Char
  | [] => []
  | c :: cs =>
    if c == '\t' then List.replicate (8 - column % 8) ' ' ++ expandTabs 0 cs
    else c :: expandTabs (if c == '\n' || c == '\r' then 0 else column + 1) cs

/-- A line on which every space takes one column. -/
def plainSpaces (cs : List Char) : List Char :=
  (expandTabs 0 cs).map fun c => if isWrapSpace c then ' ' else c

/-- Whether a dash may follow the character directly: a word character or punctuation. -/
def endsWord (c : Char) : Bool :=
  isWordChar c || ['!', '"', '\'', '&', '.', ',', '?'].contains c

/-- Whether the character belongs to a word; nothing does not. -/
def startsWord : List Char → Bool
  | [] => false
  | c :: _ => isWordChar c

/-- Whether a hyphen comes last before this place, and a word may be divided behind it: two letters
before it, or a letter, a hyphen and a letter, and two letters behind it, which a hyphen may
part. -/
def isAfterHyphen (before after : List Char) : Bool :=
  (match before with
    | '-' :: a :: '-' :: b :: _ => isWordLetter a && isWordLetter b
    | '-' :: a :: b :: _ => isWordLetter a && isWordLetter b
    | _ => false) &&
  match after with
    | a :: '-' :: b :: _ => isWordLetter a && isWordLetter b
    | a :: b :: _ => isWordLetter a && isWordLetter b
    | _ => false

/-- Whether two or more dashes between words begin here. -/
def isBeforeDash (before after : List Char) : Bool :=
  match before, after with
  | a :: _, '-' :: '-' :: rest => endsWord a && startsWord (rest.dropWhile (· == '-'))
  | _, _ => false

/-- Whether two or more dashes between words end here. -/
def isAfterDash (before after : List Char) : Bool :=
  match before with
  | '-' :: '-' :: rest =>
    startsWord after &&
      match rest.dropWhile (· == '-') with
      | [] => false
      | a :: _ => endsWord a
  | _ => false

/-- Whether one chunk ends and another begins between the characters before this place, nearest
first, and those after it. -/
def isChunkEnd (before after : List Char) : Bool :=
  match before, after with
  | a :: _, b :: _ =>
    isWrapSpace a != isWrapSpace b || isAfterHyphen before after || isBeforeDash before after
      || isAfterDash before after
  | _, _ => false

/-- The chunks of what follows the given characters, the first of which may go on with the chunk
that stands before it. -/
def chunksAfter (before : List Char) : List Char → List Chunk
  | [] => []
  | c :: cs =>
    match chunksAfter (c :: before) cs with
    | [] => [[c]]
    | chunk :: chunks =>
      if isChunkEnd (c :: before) cs then [c] :: chunk :: chunks else (c :: chunk) :: chunks

def chunks (cs : List Char) : List Chunk :=
  chunksAfter [] cs

end ClientGen.Text
