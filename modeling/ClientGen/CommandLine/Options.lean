import ClientGen.Profile
import ClientGen.Unicode.Alphanumeric

namespace ClientGen.CommandLine

/-- The options of the program. -/
inductive Switch where
  | help
  | methodCase
  | clientBase
  | verbose
  deriving DecidableEq

/-- Options as they are written, each with what it is. -/
def spellings : List (String × Switch) :=
  [("-h", .help), ("--help", .help), ("--method-case", .methodCase),
    ("--client-base", .clientBase), ("-v", .verbose), ("--verbose", .verbose)]

namespace Switch

/-- How an option is called in messages. -/
def label : Switch → String
  | .help => "-h/--help"
  | .methodCase => "--method-case"
  | .clientBase => "--client-base"
  | .verbose => "-v/--verbose"

def takesValue : Switch → Bool
  | .methodCase | .clientBase => true
  | .help | .verbose => false

end Switch

/-- The value of an option that is given. -/
inductive Given (α : Type) where
  | value (a : α)
  /-- A lone double dash is dropped, and leaves no value. -/
  | nothing
  deriving DecidableEq

/-- What a command line asks for. -/
structure Options where
  descriptor : String
  methodCase : Option (Given MethodCase) := none
  clientBase : Option (Given String) := none
  verbose : Bool := false
  deriving DecidableEq

/-- What is wrong with a command line. -/
inductive UsageError where
  | ambiguous (word : String) (matching : List String)
  | valueExpected (s : Switch)
  | valueIgnored (s : Switch) (given : String)
  | invalidChoice (given : String)
  | descriptorMissing
  | unrecognized (words : List String)
  deriving DecidableEq

def UsageError.message : UsageError → String
  | .ambiguous word matching =>
    "ambiguous option: " ++ word ++ " could match " ++ ", ".intercalate matching
  | .valueExpected s => "argument " ++ s.label ++ ": expected one argument"
  | .valueIgnored s given =>
    "argument " ++ s.label ++ ": ignored explicit argument " ++ Text.quoted given
  | .invalidChoice given =>
    "argument " ++ Switch.methodCase.label ++ ": invalid choice: " ++ Text.quoted given
      ++ " (choose from "
      ++ ", ".intercalate (MethodCase.all.map fun c => Text.quoted c.label) ++ ")"
  | .descriptorMissing => "the following arguments are required: descriptor"
  | .unrecognized words => "unrecognized arguments: " ++ " ".intercalate words

/-- Why a command line gives no options. -/
inductive Exit where
  | help
  | usage (e : UsageError)
  deriving DecidableEq

/-- A word of a command line. -/
inductive Word where
  | plain (s : String)
  | separator
  /-- An option, with whether its spelling has one dash, and what is attached to it. -/
  | switch (s : Switch) (short : Bool) (attached : Option (List Char))
  | unknown (s : String)
  deriving DecidableEq

/-- Whether a spelling has one dash. -/
def isShort (spelling : String) : Bool :=
  !"--".toList.isPrefixOf spelling.toList

/-- The text in front of the first equals sign, and the text behind it if there is one. -/
def splitValue (cs : List Char) : List Char × Option (List Char) :=
  match cs.dropWhile (· != '=') with
  | [] => (cs, none)
  | _ :: value => (cs.takeWhile (· != '='), some value)

def dropLineEnd (cs : List Char) : List Char :=
  if cs.getLast? == some '\n' then cs.dropLast else cs

/-- Whether a text is a negative number: digits behind a dash, or digits behind a point. A line feed
at its end does not count. -/
def isNegativeNumber (cs : List Char) : Bool :=
  match dropLineEnd cs with
  | '-' :: rest =>
    match rest.dropWhile Unicode.isDecimal with
    | [] => !rest.isEmpty
    | '.' :: fraction => !fraction.isEmpty && fraction.all Unicode.isDecimal
    | _ => false
  | _ => false

/-- The option that a spelling names, with what is attached. -/
def exactSwitch? (spelling : List Char) (attached : Option (List Char)) : Option Word :=
  (spellings.lookup (String.ofList spelling)).map fun s =>
    .switch s (isShort (String.ofList spelling)) attached

/-- The spellings a word may stand for, each with what is attached then: the long ones that it is
the beginning of, or the short one that it begins with. -/
def candidates (cs : List Char) : List (String × Word) :=
  if "--".toList.isPrefixOf cs then
    let (name, attached) := splitValue cs
    spellings.filterMap fun o =>
      if name.isPrefixOf o.1.toList then some (o.1, .switch o.2 false attached) else none
  else
    spellings.filterMap fun o =>
      if o.1.toList == cs.take 2 then some (o.1, .switch o.2 true (some (cs.drop 2)))
      else if cs.isPrefixOf o.1.toList then some (o.1, .switch o.2 false none)
      else none

/-- The kind of a word that begins with a dash and has more behind it. -/
def classifyDashed (cs : List Char) : Except UsageError Word :=
  let (name, attached) := splitValue cs
  match exactSwitch? cs none with
  | some w => .ok w
  | none =>
    match attached.bind fun value => exactSwitch? name (some value) with
    | some w => .ok w
    | none =>
      match candidates cs with
      | [(_, w)] => .ok w
      | [] =>
        .ok (if isNegativeNumber cs || cs.contains ' ' then .plain (String.ofList cs)
          else .unknown (String.ofList cs))
      | several => .error (.ambiguous (String.ofList cs) (several.map Prod.fst))

def classify (word : String) : Except UsageError Word :=
  match word.toList with
  | '-' :: c :: cs => classifyDashed ('-' :: c :: cs)
  | _ => .ok (.plain word)

def classifyAll : List String → Except UsageError (List Word)
  | [] => .ok []
  | word :: words =>
    if word == "--" then .ok (.separator :: words.map .plain)
    else do
      let w ← classify word
      let ws ← classifyAll words
      return w :: ws

/-- What has been taken from a command line. -/
structure Taken where
  descriptor : Option String := none
  methodCase : Option (Given MethodCase) := none
  clientBase : Option (Given String) := none
  verbose : Bool := false
  extras : List String := []

namespace Taken

def setAside (t : Taken) (word : String) : Taken :=
  { t with extras := t.extras ++ [word] }

def applyFlag (t : Taken) : Switch → Except Exit Taken
  | .help => .error .help
  | .verbose => .ok { t with verbose := true }
  | _ => .ok t

def applyValue (t : Taken) (s : Switch) (value : String) : Except Exit Taken :=
  match s with
  | .methodCase =>
    if value == "--" then .ok { t with methodCase := some .nothing }
    else
      match MethodCase.ofLabel? value with
      | some c => .ok { t with methodCase := some (.value c) }
      | none => .error (.usage (.invalidChoice value))
  | .clientBase =>
    .ok { t with clientBase := some (if value == "--" then .nothing else .value value) }
  | _ => .ok t

/-- What is asked for, if all words were of use. -/
def options (t : Taken) : Except Exit Options :=
  match t.descriptor with
  | none => .error (.usage .descriptorMissing)
  | some descriptor =>
    if t.extras.isEmpty then
      .ok { descriptor, methodCase := t.methodCase, clientBase := t.clientBase, verbose := t.verbose }
    else .error (.usage (.unrecognized t.extras))

end Taken

/-- An option without a value, and those that share its word behind it. -/
def flagsBehind (s : Switch) : List Char → Except UsageError (List Switch)
  | [] => .ok [s]
  | c :: cs =>
    match spellings.lookup (String.ofList ['-', c]) with
    | none => .error (.valueIgnored s (String.ofList (c :: cs)))
    | some s' => (flagsBehind s' cs).map (s :: ·)

/-- The options without a value that a word holds. -/
def flagsOf (s : Switch) (short : Bool) : Option (List Char) → Except UsageError (List Switch)
  | none => .ok [s]
  | some attached =>
    if short && !attached.isEmpty then flagsBehind s attached
    else .error (.valueIgnored s (String.ofList attached))

/-- Takes the words of a command line from left to right. -/
def take (t : Taken) : List Word → Except Exit Taken
  | [] => .ok t
  | .unknown s :: words => take (t.setAside s) words
  | .switch s short attached :: words =>
    if s.takesValue then
      match attached with
      | some value => do take (← t.applyValue s (String.ofList value)) words
      | none =>
        match words with
        | .plain value :: words => do take (← t.applyValue s value) words
        | _ => .error (.usage (.valueExpected s))
    else
      match flagsOf s short attached with
      | .error e => .error (.usage e)
      | .ok flags => do take (← flags.foldlM Taken.applyFlag t) words
  | .plain s :: words =>
    match t.descriptor with
    | some _ => take (t.setAside s) words
    | none =>
      match words with
      | .separator :: words => take { t with descriptor := some s } words
      | words => take { t with descriptor := some s } words
  | .separator :: words =>
    match t.descriptor, words with
    | none, .plain s :: words => take { t with descriptor := some s } words
    | _, words => take (t.setAside "--") words

def parse (words : List String) : Except Exit Options := do
  let kinds ← (classifyAll words).mapError .usage
  (← take {} kinds).options

end ClientGen.CommandLine
