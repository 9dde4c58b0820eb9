import ClientGen.Assembly.DocBlock

namespace ClientGen

/-- Why nothing could be assembled. -/
inductive AssemblyError where
  | unsupported (kind : String)
  | member (wireName : String) (cause : Fault)
  deriving DecidableEq

def AssemblyError.message : AssemblyError → String
  | .unsupported kind => "No assembler supports context of kind " ++ Text.quoted kind
  | .member wireName cause =>
    "Could not assemble member for " ++ Text.quoted wireName ++ ": " ++ cause.message

namespace Assembly

def nameOf (p : Profile) (op : Operation) : String :=
  memberName p.methodCase [p.transportMethod] op.wireName

/-- The name of the argument that a member hands on, if it has one. -/
def argumentName? (p : Profile) (op : Operation) : Option String :=
  match op.parameters with
  | [] => none
  | [parameter] => some parameter.name
  | _ => some p.multiArgumentName

/-- The body of a member: one call of the transport method. -/
def body (p : Profile) (op : Operation) : String :=
  let call := "return self." ++ p.transportMethod ++ "(" ++ Text.quoted op.wireName
  match argumentName? p op with
  | none => call ++ ")"
  | some name => call ++ ", " ++ name ++ ")"

/-- The declared parameters of a member: one at most, as several are packed into one request and
only documented. -/
def arguments (p : Profile) (op : Operation) : Except Fault (List Argument) :=
  match op.parameters with
  | [] => .ok []
  | [parameter] =>
    if isParameterName parameter.name then do
      discard (TypeName.parse parameter.type)
      return [⟨parameter.name, parameter.type⟩]
    else .error (.invalidParameterName parameter.name)
  | _ => .ok [⟨p.multiArgumentName, p.multiArgumentType⟩]

def docBlock (p : Profile) (op : Operation) : Edit Fault DocBlock :=
  match op.parameters with
  | [] => bareDocBlock p op.returnType
  | [parameter] => singleDocBlock p parameter op.returnType
  | parameters => packedDocBlock p parameters op.returnType

/-- Sets the base class and puts the member for an operation at the end, in place of a member of
its name. -/
def install (p : Profile) (op : Operation) : Edit Fault Unit := do
  Edit.update fun m => m.setBase p.clientBase
  discard (resolve .plain p.clientBase)
  Edit.update fun m => m.removeMember (nameOf p op)
  let arguments ← Edit.ofExcept (arguments p op)
  let docBlock ← docBlock p op
  Edit.update fun m => m.addMember {
    name := nameOf p op
    body := body p op
    returnType := op.returnType
    arguments
    docBlock := some docBlock }

end Assembly

def assemble (p : Profile) (op : Operation) : Edit AssemblyError Unit :=
  (Assembly.install p op).transaction.mapError (.member op.wireName)

end ClientGen
