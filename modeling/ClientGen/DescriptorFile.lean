import ClientGen.Document
import ClientGen.FileTree
import ClientGen.Json.Reader
import ClientGen.Text.Lines
import ClientGen.Text.Utf8

namespace ClientGen

/-- Why no document can be loaded. -/
inductive DescriptorError where
  | unreadable (path : DescriptorPath) (fault : ReadFault)
  | notText (path : DescriptorPath) (fault : Text.Utf8Fault)
  | invalidJson (text : List Char) (fault : Json.Fault)
  | noYamlReader
  | invalidYaml (why : String)
  | notObject
  | document (fault : DocumentFault)
  deriving DecidableEq

/-- The bytes at fault, and where they are. -/
def faultyBytes (f : Text.Utf8Fault) : String :=
  if f.first == f.last then
    "byte 0x" ++ String.ofList (Text.hexDigits 2 f.byte.toNat) ++ " in position "
      ++ toString f.first
  else "bytes in position " ++ toString f.first ++ "-" ++ toString f.last

namespace DescriptorError

def unreadableMessage (path : DescriptorPath) (why : String) : String :=
  "Cannot read descriptor " ++ path.toString ++ ": " ++ why

def message : DescriptorError → String
  | .unreadable path fault =>
    unreadableMessage path
      ("[Errno " ++ toString fault.code ++ "] " ++ fault.text ++ ": " ++ Text.quoted path.toString)
  | .notText path fault =>
    unreadableMessage path
      ("'utf-8' codec can't decode " ++ faultyBytes fault ++ ": " ++ fault.reason.message)
  | .invalidJson text fault => "Invalid JSON descriptor: " ++ fault.message text
  | .noYamlReader => "PyYAML is required to load YAML descriptors"
  | .invalidYaml why => "Invalid YAML descriptor: " ++ why
  | .notObject => "Descriptor document must be an object"
  | .document fault => fault.message

end DescriptorError

/-- What keeps a run from ending in a client or in an error that it tells. -/
inductive Breakdown where
  /-- A path holds a null character, which the system cannot be asked for. -/
  | unusablePath
  /-- A text holds half of a surrogate pair, so that it is made of no characters. What becomes of
  such a text is left open. -/
  | halfPair
  /-- A key of the profile is no text, and cannot be told among the unknown ones. -/
  | profileKey (kind : String)
  /-- The reader of YAML fails in another way than on a text that is not well formed. -/
  | raised (kind why : String)
  deriving DecidableEq

def Breakdown.message : Breakdown → String
  | .unusablePath => "embedded null byte"
  | .halfPair => "surrogates not allowed"
  | .profileKey kind => "sequence item 0: expected str instance, " ++ kind ++ " found"
  | .raised _ why => why

inductive LoadError where
  | descriptor (e : DescriptorError)
  | breakdown (b : Breakdown)
  deriving DecidableEq

structure DescriptorFile where
  datum : Datum
  /-- The kinds of those keys of the profile that are no texts. -/
  oddKeys : List String := []

/-- Why a reader of YAML gives nothing. -/
inductive YamlFault where
  | malformed (why : String)
  | raised (kind why : String)
  deriving DecidableEq

def YamlFault.toLoadError : YamlFault → LoadError
  | .malformed why => .descriptor (.invalidYaml why)
  | .raised kind why => .breakdown (.raised kind why)

/-- How texts in YAML are read, if there is a library for it. It is not part of the program. -/
abbrev YamlReader := Option (List Char → Except YamlFault DescriptorFile)

namespace DescriptorFile

def ofYaml (yaml : YamlReader) (text : List Char) : Except LoadError DescriptorFile :=
  match yaml with
  | none => .error (.descriptor .noYamlReader)
  | some read => (read text).mapError YamlFault.toLoadError

def ofJson (text : List Char) : Except LoadError DescriptorFile :=
  match Json.parse text with
  | .error fault => .error (.descriptor (.invalidJson text fault))
  | .ok value =>
    match value.datum? with
    | some datum => .ok { datum }
    | none => .error (.breakdown .halfPair)

/-- Reads a text in the notation that the path names. -/
def ofText (yaml : YamlReader) (path : DescriptorPath) (text : List Char) :
    Except LoadError DescriptorFile :=
  if path.isYaml then ofYaml yaml text else ofJson text

/-- Reads the bytes of a file. Its text is UTF-8, with any kind of line ends. -/
def ofBytes (yaml : YamlReader) (path : DescriptorPath) (bytes : List UInt8) :
    Except LoadError DescriptorFile := do
  let text ← (Text.Utf8.decode bytes).mapError fun f => .descriptor (.notText path f)
  ofText yaml path (Text.unifyNewlines text)

def readDocument : Datum → Except DescriptorError Document
  | .object entries => (Document.ofEntries entries).mapError .document
  | _ => .error .notObject

def readService : Datum → Except DescriptorError Service
  | .object entries => (Document.readService entries).mapError .document
  | _ => .error .notObject

/-- The document that a file holds. A profile whose keys are no texts is met behind the service. -/
def document (f : DescriptorFile) : Except LoadError Document :=
  match f.oddKeys with
  | [] => (readDocument f.datum).mapError .descriptor
  | kind :: _ => do
    discard ((readService f.datum).mapError .descriptor)
    throw (.breakdown (.profileKey kind))

def load (yaml : YamlReader) (path : DescriptorPath) (contents : Except ReadFault (List UInt8)) :
    Except LoadError Document :=
  if path.toString.contains '\x00' then .error (.breakdown .unusablePath)
  else do
    let bytes ← contents.mapError fun fault => .descriptor (.unreadable path fault)
    (← ofBytes yaml path bytes).document

end DescriptorFile

end ClientGen
