import ClientGen.Unicode.Space

namespace ClientGen.Text
open Unicode

def extendFirst (c : Char) : List (List Char) → List (List Char)
  | [] => [[c]]
  | line :: lines => (c :: line) :: lines

/-- The lines of a text. A carriage return and the line feed behind it are one break, and a break
at the very end opens no further line. -/
def splitLines : List Char → List (List Char)
  | [] => []
  | '\r' :: '\n' :: cs => [] :: splitLines cs
  | c :: cs => if isLineBreak c then [] :: splitLines cs else extendFirst c (splitLines cs)

def trimEnd (cs : List Char) : List Char :=
  (cs.reverse.dropWhile isBlank).reverse

def isBlankText (cs : List Char) : Bool :=
  cs.all isBlank

def linesOf (s : String) : List String :=
  (splitLines s.toList).map String.ofList

def trimmedEnd (s : String) : String :=
  String.ofList (trimEnd s.toList)

def joinLines (lines : List String) : String :=
  "\n".intercalate lines

/-- Line feed alone for every line end: a carriage return becomes a line feed, together with the
line feed behind it if there is one. -/
def unifyNewlines : List Char → List Char
  | [] => []
  | '\r' :: '\n' :: cs => '\n' :: unifyNewlines cs
  | c :: cs => (if c == '\r' then '\n' else c) :: unifyNewlines cs

end ClientGen.Text
