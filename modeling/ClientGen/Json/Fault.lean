namespace ClientGen.Json

/-- What is wrong at some place of a text. -/
inductive Problem where
  | byteOrderMark
  | expectingValue
  | expectingKey
  | expectingColon
  | expectingComma
  | unterminatedText
  | controlCharacter
  | invalidEscape
  | invalidUnicodeEscape
  | extraData
  deriving DecidableEq

def Problem.message : Problem → String
  | .byteOrderMark => "Unexpected UTF-8 BOM (decode using utf-8-sig)"
  | .expectingValue => "Expecting value"
  | .expectingKey => "Expecting property name enclosed in double quotes"
  | .expectingColon => "Expecting ':' delimiter"
  | .expectingComma => "Expecting ',' delimiter"
  | .unterminatedText => "Unterminated string starting at"
  | .controlCharacter => "Invalid control character at"
  | .invalidEscape => "Invalid \\escape"
  | .invalidUnicodeEscape => "Invalid \\uXXXX escape"
  | .extraData => "Extra data"

/-- A problem at an offset. -/
structure Fault where
  problem : Problem
  position : Nat
  deriving DecidableEq

/-- The line of an offset, counted from one. -/
def lineOf (text : List Char) (position : Nat) : Nat :=
  (text.take position).count '\n' + 1

/-- The column of an offset, counted from one. -/
def columnOf (text : List Char) (position : Nat) : Nat :=
  ((text.take position).reverse.takeWhile (· != '\n')).length + 1

def Fault.message (f : Fault) (text : List Char) : String :=
  f.problem.message ++ ": line " ++ toString (lineOf text f.position) ++ " column "
    ++ toString (columnOf text f.position) ++ " (char " ++ toString f.position ++ ")"

end ClientGen.Json
