import ClientGen.Client

namespace ClientGen

/-- How much an entry matters. -/
inductive Level where
  | debug
  | info
  | warning
  deriving DecidableEq

def Level.label : Level → String
  | .debug => "DEBUG"
  | .info => "INFO"
  | .warning => "WARNING"

/-- Something that happens in a run. -/
inductive Event where
  | overriding (keys : List String)
  | replacing (className name : String)
  | assembled (className name wireName : String)
  | failed (wireName className : String) (cause : Fault)
  | generated (className : String) (members imports : Nat)
  | written (members : Nat) (path : DescriptorPath)
  deriving DecidableEq

namespace Event

def level : Event → Level
  | .failed _ _ _ => .warning
  | .generated _ _ _ | .written _ _ => .info
  | .overriding _ | .replacing _ _ | .assembled _ _ _ => .debug

/-- Who tells of an event. -/
def source : Event → String
  | .overriding _ => "soapify.generator"
  | .replacing _ _ | .assembled _ _ _ | .failed _ _ _ => "soapify.generation.client.methods"
  | .generated _ _ _ => "soapify.generation.client"
  | .written _ _ => "soapify.__main__"

def message : Event → String
  | .overriding keys => "Overriding profile options: " ++ ", ".intercalate keys
  | .replacing className name => "Replacing " ++ className ++ "." ++ name
  | .assembled className name wireName =>
    "Assembled " ++ className ++ "." ++ name ++ " from " ++ Text.quoted wireName
  | .failed wireName className cause =>
    "Failed to assemble " ++ Text.quoted wireName ++ " on " ++ className ++ ": " ++ cause.message
  | .generated className members imports =>
    "Generated " ++ className ++ " with " ++ toString members ++ " method(s) and "
      ++ toString imports ++ " import(s)"
  | .written members path =>
    "Generated " ++ toString members ++ " method(s) from " ++ path.toString

def line (e : Event) : String :=
  e.level.label ++ ":" ++ e.source ++ ":" ++ e.message ++ "\n"

end Event

namespace Journal

/-- What happens while an operation is assembled on a class, up to its end. A member is replaced
only if the base class can be named. -/
def replacement (p : Profile) (op : Operation) (m : ClassModel) : List Event :=
  let name := Assembly.nameOf p op
  match TypeName.parse p.clientBase with
  | .error _ => []
  | .ok _ => if m.members.has name then [.replacing m.name name] else []

/-- What happens while operations are assembled on a class. -/
def assembly (p : Profile) : List Operation → ClassModel → List Event
  | [], m => [.generated m.name m.members.size m.imports.size]
  | op :: ops, m =>
    replacement p op m ++
      match assemble p op m with
      | (.ok _, m') =>
        .assembled m.name (Assembly.nameOf p op) op.wireName :: assembly p ops m'
      | (.error (.member wireName cause), _) => [.failed wireName m.name cause]
      | (.error (.unsupported _), _) => []

def generation (p : Profile) (s : Service) : List Event :=
  assembly p s.operations s.emptyClass

def override (keys : List String) : List Event :=
  match sortNames keys with
  | [] => []
  | keys => [.overriding keys]

/-- What happens while the client of a document is generated, once its options are overridden. -/
def ofDocument (d : Document) (overrides : List (String × Datum)) : List Event :=
  match d.profile.override overrides with
  | .ok p => generation p d.service
  | .error _ => []

end Journal

end ClientGen
