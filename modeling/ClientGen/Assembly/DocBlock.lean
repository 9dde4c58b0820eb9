import ClientGen.Profile
import ClientGen.Reference
import ClientGen.Service
import ClientGen.Text.Lines

namespace ClientGen.Assembly

def returnTag (p : Profile) (returnType : String) : Edit Fault Tag := do
  let wrapper ← resolve .plain p.resultInterface
  let short ← resolve .withParent returnType
  return ⟨"return", wrapper ++ "|" ++ short⟩

def throwsTag (p : Profile) : Edit Fault Tag := do
  return ⟨"throws", ← resolve .plain p.faultType⟩

def bareDocBlock (p : Profile) (returnType : String) : Edit Fault DocBlock := do
  let returned ← returnTag p returnType
  let raised ← throwsTag p
  return { tags := [returned, raised] }

/-- Documents a call with one parameter. -/
def singleDocBlock (p : Profile) (parameter : Parameter) (returnType : String) :
    Edit Fault DocBlock := do
  let wrapper ← resolve .plain p.requestInterface
  let short ← resolve .withParent parameter.type
  let returned ← returnTag p returnType
  let raised ← throwsTag p
  return { tags := [⟨"param", wrapper ++ "|" ++ short ++ " " ++ parameter.name⟩, returned, raised] }

def parameterLines : List Parameter → Edit Fault (List String)
  | [] => return []
  | parameter :: rest => do
    let short ← resolve .withParent parameter.type
    let lines ← parameterLines rest
    return (short ++ " " ++ parameter.name) :: lines

def packedHeading : String :=
  "MultiArgumentRequest with following params:"

/-- Documents a call whose parameters are packed into one request. -/
def packedDocBlock (p : Profile) (parameters : List Parameter) (returnType : String) :
    Edit Fault DocBlock := do
  let lines ← parameterLines parameters
  let packed ← resolve .plain p.multiArgumentType
  let returned ← returnTag p returnType
  return {
    details := some (Text.joinLines (packedHeading :: "" :: lines))
    tags := [⟨"param", packed⟩, returned] }

end ClientGen.Assembly
