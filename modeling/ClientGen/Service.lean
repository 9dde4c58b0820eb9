import ClientGen.Identifier

namespace ClientGen

/-- A typed parameter of an operation. -/
structure Parameter where
  name : String
  type : String
  /-- Its place among the parameters of the operation. -/
  position : Nat := 0
  deriving DecidableEq

/-- An operation as it is written down. -/
structure OperationDraft where
  wireName : String
  parameters : List Parameter := []
  returnType : String := "object"
  deriving DecidableEq

/-- An operation that can be called. -/
structure Operation extends OperationDraft where
  wireName_ne : wireName ≠ ""
  deriving DecidableEq

/-- The operation that a draft describes, if it has a name. -/
def OperationDraft.operation? (d : OperationDraft) : Option Operation :=
  if h : d.wireName = "" then none else some { d with wireName_ne := h }

/-- A service, and the class that is to be generated for it. -/
@[ext]
structure Service where
  className : String
  /-- Dotted path of the module the class is generated into. -/
  home : String := ""
  operations : List Operation := []
  className_ok : isIdentifier className = true

instance : DecidableEq Service :=
  fun _ _ => decidable_of_iff _ Service.ext_iff.symm

end ClientGen
