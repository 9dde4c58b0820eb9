import ClientGen.CommandLine.Options
import ClientGen.Journal

namespace ClientGen.CommandLine

/-- How a program ends, and what it has written. -/
structure Outcome where
  status : Nat
  out : String := ""
  err : String := ""
  deriving DecidableEq

def usageText : String :=
  "usage: soapify [-h] [--method-case \x7bcamel,snake\x7d] [--client-base CLIENT_BASE]\n"
    ++ "               [-v]\n"
    ++ "               descriptor\n"

def helpText : String :=
  usageText ++ "\n"
    ++ "Generate a Python client class from remote operation descriptors.\n"
    ++ "\n"
    ++ "positional arguments:\n"
    ++ "  descriptor            Path to the service descriptor (JSON/YAML)\n"
    ++ "\n"
    ++ "options:\n"
    ++ "  -h, --help            show this help message and exit\n"
    ++ "  --method-case \x7bcamel,snake\x7d\n"
    ++ "                        Naming style of generated methods\n"
    ++ "  --client-base CLIENT_BASE\n"
    ++ "                        Qualified name of the client base class\n"
    ++ "  -v, --verbose         Enable debug logging\n"

/-- How the program ends without having done anything. -/
def Exit.outcome : Exit → Outcome
  | .help => { status := 0, out := helpText }
  | .usage e => { status := 2, err := usageText ++ "soapify: error: " ++ e.message ++ "\n" }

namespace Options

def path (o : Options) : DescriptorPath :=
  DescriptorPath.ofString o.descriptor

/-- The options of the profile that are overridden by a value. -/
def overrides (o : Options) : List (String × Datum) :=
  (match o.methodCase with
    | some (.value c) => [(TextOption.methodCase.key, .text c.label)]
    | _ => [])
  ++ match o.clientBase with
    | some (.value name) => [(TextOption.clientBase.key, .text name)]
    | _ => []

def givenKeys (o : Options) : List String :=
  (if o.methodCase.isSome then [TextOption.methodCase.key] else [])
    ++ if o.clientBase.isSome then [TextOption.clientBase.key] else []

/-- The lines of those events that are to be told. -/
def tell (o : Options) (events : List Event) : String :=
  String.join ((events.filter fun e => o.verbose || e.level == .warning).map Event.line)

end Options

def errorLine (message : String) : String :=
  "error: " ++ message ++ "\n"

def fail (o : Options) (events : List Event) (message : String) : Outcome :=
  { status := 1, err := o.tell events ++ errorLine message }

/-- Generates the client of a document, with options of its profile overridden. -/
def generateGiven (o : Options) (d : Document) : Outcome :=
  let events := Journal.override o.givenKeys ++ Journal.ofDocument d o.overrides
  match d.generate o.overrides with
  | .ok g =>
    { status := 0
      out := g.code
      err := o.tell (events ++ [.written g.model.members.size o.path]) }
  | .error e => fail o events e.message

/-- Generates the client of a document that has been loaded. A method case without a value is none
that is offered, and a base class without a value cannot be named by the first operation. -/
def generate (o : Options) (d : Document) : Outcome :=
  let overriding := Journal.override o.givenKeys
  match o.methodCase, o.clientBase, d.service.operations with
  | some .nothing, _, _ => fail o overriding ProfileFault.missingMethodCase.message
  | _, some .nothing, op :: _ =>
    fail o (overriding ++ [.failed op.wireName d.service.className .missingTypeName])
      (AssemblyError.member op.wireName .missingTypeName).message
  | _, _, _ => generateGiven o d

/-- Does what the options ask for, with what reading the file gave. -/
def execute (yaml : YamlReader) (o : Options) (contents : Except ReadFault (List UInt8)) :
    Except Breakdown Outcome :=
  match DescriptorFile.load yaml o.path contents with
  | .ok d => .ok (generate o d)
  | .error (.descriptor e) => .ok (fail o [] e.message)
  | .error (.breakdown b) => .error b

def run (yaml : YamlReader) (read : DescriptorPath → Except ReadFault (List UInt8))
    (words : List String) : Except Breakdown Outcome :=
  match parse words with
  | .ok o => execute yaml o (read o.path)
  | .error e => .ok e.outcome

end ClientGen.CommandLine
