import ClientGen.Identifier
import ClientGen.Unicode.Case

namespace ClientGen
open Unicode

/-- How the words of a name are put together. -/
inductive MethodCase where
  | camel
  | snake
  deriving DecidableEq

namespace MemberName

/-- The name of what has no words. -/
def fallback : String :=
  "operation"

/-- Whether words end at the character. -/
def isSeparator (c : Char) : Bool :=
  c == '_' || !isIdContinue c

def words (cs : List Char) : List (List Char) :=
  (cs.splitOnP isSeparator).filter fun word => !word.isEmpty

/-- Whether a word is divided behind the character: before a capital that follows a small letter or
a digit, and before the last of several capitals if a small letter comes next. -/
def isDivided (c : Char) : List Char → Bool
  | [] => false
  | b :: rest =>
    b.isUpper &&
      (c.isLower || c.isDigit || (c.isUpper && match rest with | [] => false | a :: _ => a.isLower))

def parts : List Char → List (List Char)
  | [] => []
  | c :: cs =>
    match parts cs with
    | [] => [[c]]
    | part :: rest => if isDivided c cs then [c] :: part :: rest else (c :: part) :: rest

def lowerFirst : List Char → List Char
  | [] => []
  | c :: cs => lowerChar c ++ cs

def upperFirst : List Char → List Char
  | [] => []
  | c :: cs => upperChar c ++ cs

/-- The words put together in a case. -/
def join (style : MethodCase) (ws : List (List Char)) : List Char :=
  match style with
  | .snake => ['_'].intercalate ((ws.flatMap parts).map lower)
  | .camel =>
    match ws with
    | [] => []
    | w :: ws => lowerFirst w ++ ws.flatMap upperFirst

/-- A text as an identifier, behind an underscore if it needs one. -/
def toIdentifier? (name : String) : Option String :=
  if isIdentifier name then some name
  else if isIdentifier ("_" ++ name) then some ("_" ++ name)
  else none

/-- The name, with an underscore behind it if it is a keyword or reserved. -/
def avoid (reserved : List String) (name : String) : String :=
  if isKeyword name || reserved.contains name then name ++ "_" else name

end MemberName

/-- The name of the member for an operation: the words of its wire name in a case, made an
identifier that is no keyword and not reserved. -/
def memberName (style : MethodCase) (reserved : List String) (wireName : String) : String :=
  match MemberName.words wireName.toList with
  | [] => MemberName.fallback
  | ws =>
    match MemberName.toIdentifier? (String.ofList (MemberName.join style ws)) with
    | none => MemberName.fallback
    | some name => MemberName.avoid reserved name

end ClientGen
