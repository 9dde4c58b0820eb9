import ClientGen.Text.Quoted

namespace ClientGen

/-- A name or a measure that cannot be used. -/
inductive Fault where
  | malformedTypeName (given : String)
  | missingTypeName
  | invalidParameterName (given : String)
  | invalidWidth (width : Int)
  deriving DecidableEq

def Fault.message : Fault → String
  | .malformedTypeName given => "Malformed qualified type name: " ++ Text.quoted given
  | .missingTypeName => "'list' object has no attribute 'lstrip'"
  | .invalidParameterName given => "Invalid parameter name: " ++ Text.quoted given
  | .invalidWidth width => "invalid width " ++ toString width ++ " (must be > 0)"

end ClientGen
