import ClientGen.Assembly.Dispatch
import ClientGen.DescriptorFile
import ClientGen.Source

namespace ClientGen

/-- A generated module: the class, and the text. -/
structure Generated where
  model : ClassModel
  code : String
  deriving DecidableEq

/-- Why nothing is generated. -/
inductive GenerationError where
  | descriptor (e : DescriptorError)
  | unknownOverride (key : String)
  | assembly (e : AssemblyError)
  | emission (f : Fault)
  deriving DecidableEq

def GenerationError.message : GenerationError → String
  | .descriptor e => e.message
  | .unknownOverride key => "Unknown profile option(s): " ++ key
  | .assembly e => e.message
  | .emission f => f.message

/-- The class of a service before anything is assembled. -/
def Service.emptyClass (s : Service) : ClassModel :=
  { name := s.className, home := s.home }

/-- Dispatches operations one after the other, and tells what recorders saw. -/
def dispatchAll (assemblers : List Assembler) :
    List Operation → Edit AssemblyError (List Sighting)
  | [] => return []
  | op :: ops => do
    let seen ← dispatch assemblers (.operation op)
    let more ← dispatchAll assemblers ops
    return seen.toList ++ more

def render (p : Profile) (m : ClassModel) : Except GenerationError Generated :=
  match Source.render p.futureAnnotations m with
  | .ok code => .ok { model := m, code }
  | .error f => .error (.emission f)

/-- Generates a client with the given assemblers, and tells what recorders saw. -/
def generateWith (assemblers : List Assembler) (p : Profile) (s : Service) :
    Except GenerationError (Generated × List Sighting) :=
  match dispatchAll assemblers s.operations s.emptyClass with
  | (.ok seen, m) => (render p m).map fun g => (g, seen)
  | (.error e, _) => .error (.assembly e)

def generate (p : Profile) (s : Service) : Except GenerationError Generated :=
  (generateWith [.members p] p s).map Prod.fst

def givenOverrides (overrides : List (String × Datum)) : List (String × Datum) :=
  overrides.filter fun o => match o.2 with | .null => false | _ => true

def Profile.override (p : Profile) (overrides : List (String × Datum)) :
    Except GenerationError Profile :=
  match givenOverrides overrides with
  | [] => .ok p
  | given =>
    match given.find? fun o => !isOptionKey o.1 with
    | some o => .error (.unknownOverride o.1)
    | none =>
      (do (← p.settings.setAll given).profile).mapError fun f => .descriptor (.document (.profile f))

/-- Generates the client that a document describes, with options of its profile overridden. -/
def Document.generate (d : Document) (overrides : List (String × Datum)) :
    Except GenerationError Generated := do
  let p ← d.profile.override overrides
  ClientGen.generate p d.service

end ClientGen
