import ClientGen.Fault
import ClientGen.Identifier

namespace ClientGen

def dotted (segments : List String) : String :=
  ".".intercalate segments

/-- A type name: the segments of the namespace it lives in, and its own name. -/
structure TypeName where
  qualifiers : List String
  leaf : String
  deriving DecidableEq

namespace TypeName

def segments (t : TypeName) : List String :=
  t.qualifiers ++ [t.leaf]

/-- The name in full, without leading dots. -/
def full (t : TypeName) : String :=
  dotted t.segments

/-- The namespace of a name, empty if it is bare. -/
def space (t : TypeName) : String :=
  dotted t.qualifiers

/-- The namespace of the namespace of a name. -/
def outerSpace (t : TypeName) : String :=
  dotted t.qualifiers.dropLast

/-- The segments of a text, which leading dots do not add to. -/
def splitSegments (given : String) : List String :=
  ((given.toList.dropWhile (· == '.')).splitOn '.').map String.ofList

/-- Reads a name, each segment of which has to be an identifier. -/
def parse (given : String) : Except Fault TypeName :=
  let segments := splitSegments given
  if segments.all isIdentifier then .ok ⟨segments.dropLast, segments.getLastD ""⟩
  else .error (.malformedTypeName given)

/-- How much of a name generated text keeps. -/
inductive Form where
  /-- The name alone. -/
  | plain
  /-- The name behind the last segment of its namespace. -/
  | withParent
  deriving DecidableEq

/-- A shortened name, and the qualified name that has to be imported for it. -/
structure Spelling where
  short : String
  needs : Option String
  deriving DecidableEq

/-- Shortens a name for a class of the namespace `home`. Names of that namespace and bare names are
in scope, and so is a parent that lives there. -/
def spell (home : String) (form : Form) (t : TypeName) : Spelling :=
  match t.qualifiers.getLast? with
  | none => ⟨t.leaf, none⟩
  | some parent =>
    if t.space == home then ⟨t.leaf, none⟩
    else
      match form with
      | .plain => ⟨t.leaf, some t.full⟩
      | .withParent =>
        ⟨dotted [parent, t.leaf],
          if t.qualifiers.dropLast.isEmpty || t.outerSpace != home then some t.space else none⟩

end TypeName

end ClientGen
