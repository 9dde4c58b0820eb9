import ClientGen.Reference
import ClientGen.Text.Docstring
import ClientGen.Text.Wrap

namespace ClientGen.Source

def indent : String :=
  "    "

/-- The width that wrapped docstrings keep to. -/
def lineWidth : Nat :=
  88

/-- The text in front of the last dot of a name, and the text behind it. -/
def splitLast (name : String) : String × String :=
  let behind := name.toList.reverse.takeWhile (· != '.')
  let before := (name.toList.reverse.dropWhile (· != '.')).drop 1
  (String.ofList before.reverse, String.ofList behind.reverse)

def namesFrom (module : String) (names : List String) : List String :=
  sortNames (((names.map splitLast).filter fun n => n.1 == module).map Prod.snd)

/-- The import lines of a table: plain imports, then one line for each module that names come
from. -/
def importLines (t : ImportTable) : List String :=
  let modules := distinctNames ((t.names.map fun n => (splitLast n).1).filter (· != ""))
  (namesFrom "" t.names).map (fun name => "import " ++ name)
    ++ modules.map fun module =>
      "from " ++ module ++ " import " ++ ", ".intercalate (namesFrom module t.names)

/-- A text followed by an empty line, unless there is none. -/
def paragraph (lines : String → List String) : Option String → List String
  | none => []
  | some s => if s == "" then [] else lines s ++ [""]

def tagLine (t : Tag) : String :=
  Text.trimmedEnd ("@" ++ t.name ++ " " ++ t.description)

/-- The lines without empty ones at the end. -/
def dropEmptyEnd (lines : List String) : List String :=
  (lines.reverse.dropWhile (· == "")).reverse

def docLines (d : DocBlock) : List String :=
  dropEmptyEnd
    (paragraph (fun s => [s]) d.summary ++ paragraph Text.linesOf d.details ++ d.tags.map tagLine)

/-- A line wrapped to a width; an empty line stays. -/
def wrapLine (width : Nat) (hw : 0 < width) (line : String) : List String :=
  match Text.wrap width hw line.toList with
  | [] => [""]
  | lines => lines.map String.ofList

/-- Lines wrapped to what an indent leaves of the width. -/
def wrapLines (indentation : Nat) (lines : List String) : Except Fault (List String) :=
  if lines.isEmpty then .ok []
  else if hw : 0 < lineWidth - indentation then
    .ok (lines.flatMap (wrapLine (lineWidth - indentation) hw))
  else .error (.invalidWidth (Int.subNatNat lineWidth indentation))

/-- A line at an indent; an empty line has none. -/
def indented (indentation : String) (line : String) : String :=
  if line == "" then "" else indentation ++ line

def escaped (line : String) : String :=
  String.ofList (Text.escapeDocstring line.toList)

/-- The line that opens and closes a docstring. -/
def docstringMark (indentation : String) : String :=
  indentation ++ "\"\"\""

/-- The lines of a docstring, which are wrapped before they are escaped. -/
def docBlockLines (indentation : String) (d : DocBlock) : Except Fault (List String) := do
  let content ←
    if d.wordWrap then wrapLines indentation.length (docLines d) else pure (docLines d)
  return docstringMark indentation :: content.map (fun line => indented indentation (escaped line))
    ++ [docstringMark indentation]

def argument (m : ClassModel) (a : Argument) : Except Fault String := do
  return a.name ++ ": " ++ (← m.lookUp a.type)

def memberLines (m : ClassModel) (member : Member) : Except Fault (List String) := do
  let arguments ← member.arguments.mapM (argument m)
  let returnType ← m.lookUp member.returnType
  let docLines ←
    match member.docBlock with
    | none => pure []
    | some d => docBlockLines (indent ++ indent) d
  return (indent ++ "def " ++ member.name ++ "(" ++ ", ".intercalate ("self" :: arguments) ++ ") -> "
      ++ returnType ++ ":")
    :: docLines ++ (Text.linesOf member.body).map (indented (indent ++ indent))

def classLine (m : ClassModel) : Except Fault String :=
  match m.base with
  | none => .ok ("class " ++ m.name ++ ":")
  | some base =>
    if base == "" then .ok ("class " ++ m.name ++ ":")
    else do return "class " ++ m.name ++ "(" ++ (← m.lookUp base) ++ "):"

def headLines (futureAnnotations : Bool) (t : ImportTable) : List String :=
  (if futureAnnotations then ["from __future__ import annotations", ""] else [])
    ++ match importLines t with
      | [] => []
      | lines => lines ++ ["", ""]

def classLines (m : ClassModel) : Except Fault (List String) := do
  let opening ← classLine m
  let members ← m.members.toList.mapM (memberLines m)
  if members.isEmpty then return [opening, indent ++ "pass"]
  else return opening :: [""].intercalate members

/-- The text of the module of a class. It ends with one line feed. -/
def render (futureAnnotations : Bool) (m : ClassModel) : Except Fault String := do
  let lines ← classLines m
  return Text.trimmedEnd (Text.joinLines (headLines futureAnnotations m.imports ++ lines)) ++ "\n"

end ClientGen.Source
