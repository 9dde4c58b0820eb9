import ClientGen.Datum
import ClientGen.Identifier
import ClientGen.MemberName
import ClientGen.OrderedNames
import ClientGen.Text.Quoted

namespace ClientGen

def MethodCase.label : MethodCase → String
  | .camel => "camel"
  | .snake => "snake"

def MethodCase.all : List MethodCase :=
  [.camel, .snake]

def MethodCase.ofLabel? (label : String) : Option MethodCase :=
  MethodCase.all.find? fun c => c.label == label

/-- The options that take a text. -/
inductive TextOption where
  | clientBase
  | transportMethod
  | multiArgumentType
  | multiArgumentName
  | requestInterface
  | resultInterface
  | faultType
  | methodCase
  deriving DecidableEq

namespace TextOption

def all : List TextOption :=
  [.clientBase, .transportMethod, .multiArgumentType, .multiArgumentName, .requestInterface,
    .resultInterface, .faultType, .methodCase]

/-- What an option is called in a document. -/
def key : TextOption → String
  | .clientBase => "client_base"
  | .transportMethod => "transport_method"
  | .multiArgumentType => "multi_argument_type"
  | .multiArgumentName => "multi_argument_name"
  | .requestInterface => "request_interface"
  | .resultInterface => "result_interface"
  | .faultType => "fault_type"
  | .methodCase => "method_case"

/-- The value of an option that is not given. -/
def default : TextOption → String
  | .clientBase => "soapify.client.Client"
  | .transportMethod => "call"
  | .multiArgumentType => "soapify.types.MultiArgumentRequest"
  | .multiArgumentName => "multiArgumentRequest"
  | .requestInterface => "soapify.types.RequestInterface"
  | .resultInterface => "soapify.types.ResultInterface"
  | .faultType => "soapify.exceptions.SoapException"
  | .methodCase => "camel"

def ofKey? (k : String) : Option TextOption :=
  all.find? fun o => o.key == k

end TextOption

/-- The name of the option that switches postponed annotations on. -/
def futureAnnotationsKey : String :=
  "use_future_annotations"

def isOptionKey (k : String) : Bool :=
  k == futureAnnotationsKey || (TextOption.ofKey? k).isSome

/-- What can be wrong with the options of a profile. -/
inductive ProfileFault where
  | unknownOptions (keys : List String)
  | optionNotFlag (key : String)
  | optionNotText (key : String)
  | unsupportedMethodCase (given : String)
  | missingMethodCase
  | invalidTransportMethod (given : String)
  | invalidMultiArgumentName (given : String)
  deriving DecidableEq

def unsupportedMethodCaseMessage (shown : String) : String :=
  "Unsupported method case " ++ shown ++ ", expected one of "
    ++ ", ".intercalate (MethodCase.all.map MethodCase.label)

def ProfileFault.message : ProfileFault → String
  | .unknownOptions keys => "Unknown profile option(s): " ++ ", ".intercalate keys
  | .optionNotFlag key => "Profile option " ++ Text.quoted key ++ " must be a boolean"
  | .optionNotText key => "Profile option " ++ Text.quoted key ++ " must be a string"
  | .unsupportedMethodCase given => unsupportedMethodCaseMessage (Text.quoted given)
  | .missingMethodCase => unsupportedMethodCaseMessage "[]"
  | .invalidTransportMethod given => "Invalid transport method name: " ++ Text.quoted given
  | .invalidMultiArgumentName given =>
    "Invalid multi-argument parameter name: " ++ Text.quoted given

/-- Options with their values, which nobody has checked. -/
structure Settings where
  text : TextOption → String := TextOption.default
  futureAnnotations : Bool := true

/-- A profile that code can be generated with. -/
structure Profile where
  clientBase : String
  transportMethod : String
  multiArgumentType : String
  multiArgumentName : String
  requestInterface : String
  resultInterface : String
  faultType : String
  methodCase : MethodCase
  futureAnnotations : Bool
  transportMethod_ok : isIdentifier transportMethod = true
  multiArgumentName_ok : isParameterName multiArgumentName = true
  deriving DecidableEq

namespace Settings

def setText (s : Settings) (o : TextOption) (value : String) : Settings :=
  { s with text := fun o' => if o' = o then value else s.text o' }

/-- The settings with one option set by its name; `none` if the value is not of its type, or there
is no such option. -/
def set? (s : Settings) (key : String) (value : Datum) : Option Settings :=
  if key == futureAnnotationsKey then
    match value with
    | .flag b => some { s with futureAnnotations := b }
    | _ => none
  else
    match TextOption.ofKey? key, value with
    | some o, .text v => some (s.setText o v)
    | _, _ => none

/-- The settings with options set one after the other, up to the first one of the wrong type. -/
def setAll (s : Settings) : List (String × Datum) → Except ProfileFault Settings
  | [] => .ok s
  | (key, value) :: rest =>
    match s.set? key value with
    | some s' => s'.setAll rest
    | none =>
      .error (if key == futureAnnotationsKey then .optionNotFlag key else .optionNotText key)

/-- The profile with these settings, if code can be generated with them. -/
def profile (s : Settings) : Except ProfileFault Profile :=
  match MethodCase.ofLabel? (s.text .methodCase) with
  | none => .error (.unsupportedMethodCase (s.text .methodCase))
  | some methodCase =>
    if ht : isIdentifier (s.text .transportMethod) = true then
      if hm : isParameterName (s.text .multiArgumentName) = true then
        .ok {
          clientBase := s.text .clientBase
          transportMethod := s.text .transportMethod
          multiArgumentType := s.text .multiArgumentType
          multiArgumentName := s.text .multiArgumentName
          requestInterface := s.text .requestInterface
          resultInterface := s.text .resultInterface
          faultType := s.text .faultType
          methodCase
          futureAnnotations := s.futureAnnotations
          transportMethod_ok := ht
          multiArgumentName_ok := hm }
      else .error (.invalidMultiArgumentName (s.text .multiArgumentName))
    else .error (.invalidTransportMethod (s.text .transportMethod))

end Settings

namespace Profile

def settings (p : Profile) : Settings where
  text
    | .clientBase => p.clientBase
    | .transportMethod => p.transportMethod
    | .multiArgumentType => p.multiArgumentType
    | .multiArgumentName => p.multiArgumentName
    | .requestInterface => p.requestInterface
    | .resultInterface => p.resultInterface
    | .faultType => p.faultType
    | .methodCase => p.methodCase.label
  futureAnnotations := p.futureAnnotations

/-- Reads a profile from the entries of an object. Which entries are refused does not depend on
their order, only which failure is told does. -/
def ofEntries (entries : List (String × Datum)) : Except ProfileFault Profile :=
  match sortNames ((entries.map Prod.fst).filter fun k => !isOptionKey k) with
  | [] => do (← Settings.setAll {} entries).profile
  | unknown => .error (.unknownOptions unknown)

end Profile

end ClientGen
