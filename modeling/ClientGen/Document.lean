import ClientGen.Profile
import ClientGen.Service

namespace ClientGen

/-- What can be wrong with a document. -/
inductive DocumentFault where
  | profileNotObject
  | missingClassName
  | namespaceNotText
  | methodsNotList
  | methodNotObject (index : Nat)
  | missingWireName (index : Nat)
  | invalidReturnType (wireName : String)
  | parametersNotList (wireName : String)
  | parameterNotObject (position : Nat) (wireName : String)
  | incompleteParameter (position : Nat) (wireName : String)
  | emptyWireName
  | invalidClassName (given : String)
  | profile (fault : ProfileFault)
  deriving DecidableEq

def DocumentFault.message : DocumentFault → String
  | .profileNotObject => "'profile' must be an object"
  | .missingClassName => "Missing or invalid 'class_name' field in document"
  | .namespaceNotText => "'namespace' must be a string"
  | .methodsNotList => "'methods' must be a list"
  | .methodNotObject index => "Method #" ++ toString index ++ " must be an object"
  | .missingWireName index => "Method #" ++ toString index ++ " is missing 'wire_name'"
  | .invalidReturnType wireName =>
    "Method " ++ Text.quoted wireName ++ " has an invalid 'return_type'"
  | .parametersNotList wireName =>
    "Method " ++ Text.quoted wireName ++ " 'parameters' must be a list"
  | .parameterNotObject position wireName =>
    "Parameter #" ++ toString position ++ " of " ++ Text.quoted wireName ++ " must be an object"
  | .incompleteParameter position wireName =>
    "Parameter #" ++ toString position ++ " of " ++ Text.quoted wireName
      ++ " requires 'name' and 'type' strings"
  | .emptyWireName => "Method descriptor requires a non-empty wire name"
  | .invalidClassName given => "Invalid client class name: " ++ Text.quoted given
  | .profile fault => fault.message

/-- A document that has been read. -/
structure Document where
  service : Service
  profile : Profile
  deriving DecidableEq

namespace Document

/-- The entries of an object under a key; an absent key holds none. -/
def entriesAt (key : String) (fault : DocumentFault) (entries : List (String × Datum)) :
    Except DocumentFault (List (String × Datum)) :=
  match entries.lookup key with
  | none => .ok []
  | some (.object es) => .ok es
  | some _ => .error fault

def itemsAt (key : String) (fault : DocumentFault) (entries : List (String × Datum)) :
    Except DocumentFault (List Datum) :=
  match entries.lookup key with
  | none => .ok []
  | some (.list items) => .ok items
  | some _ => .error fault

/-- The text under a key; an absent key holds the default. -/
def textAt (key : String) (default : String) (fault : DocumentFault)
    (entries : List (String × Datum)) : Except DocumentFault String :=
  match entries.lookup key with
  | none => .ok default
  | some (.text s) => .ok s
  | some _ => .error fault

def readParameter (wireName : String) (position : Nat) : Datum → Except DocumentFault Parameter
  | .object es =>
    match es.lookup "name", es.lookup "type" with
    | some (.text name), some (.text type) => .ok { name, type, position }
    | _, _ => .error (.incompleteParameter position wireName)
  | _ => .error (.parameterNotObject position wireName)

/-- Reads a list by its items, each with its index. -/
def readItems {α : Type} (read : Nat → Datum → Except DocumentFault α) :
    (index : Nat) → List Datum → Except DocumentFault (List α)
  | _, [] => .ok []
  | index, item :: items => do
    let a ← read index item
    let as ← readItems read (index + 1) items
    return a :: as

/-- The operation of a draft, which has to have a name. -/
def checkOperation (d : OperationDraft) : Except DocumentFault Operation :=
  match d.operation? with
  | some op => .ok op
  | none => .error .emptyWireName

def readOperation (index : Nat) : Datum → Except DocumentFault Operation
  | .object es =>
    match es.lookup "wire_name" with
    | some (.text wireName) => do
      let returnType ← textAt "return_type" "object" (.invalidReturnType wireName) es
      let items ← itemsAt "parameters" (.parametersNotList wireName) es
      let parameters ← readItems (readParameter wireName) 0 items
      checkOperation { wireName, parameters, returnType }
    | _ => .error (.missingWireName index)
  | _ => .error (.methodNotObject index)

def readService (es : List (String × Datum)) : Except DocumentFault Service :=
  match es.lookup "class_name" with
  | some (.text className) =>
    if className = "" then .error .missingClassName
    else do
      let home ← textAt "namespace" "" .namespaceNotText es
      let items ← itemsAt "methods" .methodsNotList es
      let operations ← readItems readOperation 0 items
      if h : isIdentifier className = true then
        return { className, home, operations, className_ok := h }
      else .error (.invalidClassName className)
  | _ => .error .missingClassName

def ofEntries (es : List (String × Datum)) : Except DocumentFault Document := do
  let options ← entriesAt "profile" .profileNotObject es
  let service ← readService es
  let profile ← (Profile.ofEntries options).mapError .profile
  return { service, profile }

end Document

end ClientGen
