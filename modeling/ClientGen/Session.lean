import ClientGen.Assembly.Dispatch
import ClientGen.Document
import ClientGen.Source

namespace ClientGen

/-- The forms of documentation, by the parameters they speak of. -/
inductive DocShape where
  | bare
  | single
  | packed
  deriving DecidableEq

/-- A step of a session. -/
inductive Step where
  | setBase (name : String)
  | addImport (name : String)
  | addMember (member : Member)
  | removeMember (name : String)
  | hasImport (name : String)
  | hasMember (name : String)
  | importCount
  | showImports
  | compareImports (entries : List (String × Bool))
  | saveImports
  | savedImports
  | getMember (name : String)
  | resolve (form : TypeName.Form) (name : String)
  | lookUp (name : String)
  | assemble (draft : OperationDraft)
  | canAssemble (kind : String)
  | describe (draft : OperationDraft)
  | document (shape : DocShape) (draft : OperationDraft)
  | dispatch (assemblers : List Assembler) (draft : OperationDraft)
  | dispatchKind (assemblers : List Assembler) (kind : String)
  | render
  | importLines
  | memberLines (name : String)
  /-- Runs steps as one; `raised` makes them fail in the end, and `catches` turns a failure into an
  answer. -/
  | transaction (steps : List Step) (raised : Option String) (catches : Bool)

/-- Why a step fails. -/
inductive SessionError where
  | operation (fault : DocumentFault)
  | name (fault : Fault)
  | assembly (e : AssemblyError)
  | unknownMember (name : String)
  | noParameter
  | raised (text : String)
  deriving DecidableEq

/-- What a step answers. -/
inductive Answer where
  | done
  | flag (value : Bool)
  | count (value : Nat)
  | text (value : String)
  | lines (value : List String)
  | member (value : Member)
  | docBlock (value : DocBlock)
  | savedImports (names : List String) (current : Bool)
  | context (kind : String) (parameters : Nat)
  | seen (sightings : List Sighting)
  | finished (answers : List Answer)
  /-- The answers of a transaction up to its failure. -/
  | caught (answers : List Answer) (e : SessionError)

/-- A session: the class, and the imports kept aside. -/
structure Session where
  model : ClassModel
  saved : ImportTable

namespace Session

def start (m : ClassModel) : Session :=
  ⟨m, m.imports⟩

/-- What a step gives: its answer or its failure, and the session behind it. -/
abbrev Outcome := Except SessionError Answer × Session

def edit {ε α : Type} (s : Session) (act : Edit ε α) (failure : ε → SessionError)
    (answer : α → Answer) : Outcome :=
  match act s.model with
  | (.ok a, m) => (.ok (answer a), { s with model := m })
  | (.error e, m) => (.error (failure e), { s with model := m })

/-- The outcome of a step that only changes the class. -/
def change (s : Session) (f : ClassModel → ClassModel) : Outcome :=
  (.ok .done, { s with model := f s.model })

/-- The outcome of a step that only looks. -/
def look (s : Session) (answer : Except SessionError Answer) : Outcome :=
  (answer, s)

def withOperation (s : Session) (draft : OperationDraft) (run : Operation → Outcome) : Outcome :=
  match Document.checkOperation draft with
  | .ok op => run op
  | .error f => s.look (.error (.operation f))

def withMember (s : Session) (name : String) (answer : Member → Except SessionError Answer) :
    Outcome :=
  match s.model.members.find? name with
  | some member => s.look (answer member)
  | none => s.look (.error (.unknownMember name))

/-- The text that shows a table of imports. -/
def showTable (t : ImportTable) : String :=
  "ImportTable([" ++ ", ".intercalate (t.names.map Text.quoted) ++ "])"

/-- Whether a table has the given names and no others, all of them in use. -/
def sameImports (t : ImportTable) (entries : List (String × Bool)) : Bool :=
  entries.all Prod.snd && ImportTable.empty.insertMany (entries.map Prod.fst) == t

/-- Documents an operation in a form, whatever its parameters are. -/
def document (s : Session) (p : Profile) (op : Operation) : DocShape → Outcome
  | .bare => s.edit (Assembly.bareDocBlock p op.returnType) .name .docBlock
  | .single =>
    match op.parameters with
    | [] => s.look (.error .noParameter)
    | parameter :: _ =>
      s.edit (Assembly.singleDocBlock p parameter op.returnType) .name .docBlock
  | .packed => s.edit (Assembly.packedDocBlock p op.parameters op.returnType) .name .docBlock

end Session

mutual

def Step.run (p : Profile) (s : Session) : Step → Session.Outcome
  | .setBase name => s.change (·.setBase name)
  | .addImport name => s.change (·.addImport name)
  | .addMember member => s.change (·.addMember member)
  | .removeMember name => s.change (·.removeMember name)
  | .hasImport name => s.look (.ok (.flag (s.model.imports.has name)))
  | .hasMember name => s.look (.ok (.flag (s.model.members.has name)))
  | .importCount => s.look (.ok (.count s.model.imports.size))
  | .showImports => s.look (.ok (.text (Session.showTable s.model.imports)))
  | .compareImports entries => s.look (.ok (.flag (Session.sameImports s.model.imports entries)))
  | .saveImports => (.ok .done, { s with saved := s.model.imports })
  | .savedImports => s.look (.ok (.savedImports s.saved.names (s.saved == s.model.imports)))
  | .getMember name => s.withMember name fun member => .ok (.member member)
  | .resolve form name => s.edit (ClientGen.resolve form name) .name .text
  | .lookUp name => s.look (((s.model.lookUp name).map .text).mapError .name)
  | .assemble draft =>
    s.withOperation draft fun op => s.edit (ClientGen.assemble p op) .assembly fun _ => .done
  | .canAssemble kind => s.look (.ok (.flag ((Assembler.members p).supports kind)))
  | .describe draft =>
    s.withOperation draft fun op =>
      s.look (.ok (.context (Context.operation op).kind op.parameters.length))
  | .document shape draft => s.withOperation draft fun op => s.document p op shape
  | .dispatch assemblers draft =>
    s.withOperation draft fun op =>
      s.edit (ClientGen.dispatch assemblers (.operation op)) .assembly fun seen =>
        .seen seen.toList
  | .dispatchKind assemblers kind =>
    s.edit (ClientGen.dispatch assemblers (.bare kind)) .assembly fun seen => .seen seen.toList
  | .render =>
    s.look (((Source.render p.futureAnnotations s.model).map .text).mapError .name)
  | .importLines => s.look (.ok (.lines (Source.importLines s.model.imports)))
  | .memberLines name =>
    s.withMember name fun member =>
      ((Source.memberLines s.model member).map .lines).mapError .name
  | .transaction steps raised catches =>
    match Step.runAll p s steps with
    | (answers, failed, s') =>
      match failed.orElse (fun _ => raised.map .raised) with
      | none => (.ok (.finished answers), s')
      | some e =>
        let s' := { s' with model := s'.model.restore s.model }
        if catches then (.ok (.caught answers e), s') else (.error e, s')

/-- Runs steps up to the first failure: the answers before it, the failure if there is one, and the
session behind them. -/
def Step.runAll (p : Profile) (s : Session) :
    List Step → List Answer × Option SessionError × Session
  | [] => ([], none, s)
  | step :: steps =>
    match Step.run p s step with
    | (.ok answer, s') =>
      match Step.runAll p s' steps with
      | (answers, failed, s'') => (answer :: answers, failed, s'')
    | (.error e, s') => ([], some e, s')

end

/-- The outcomes of steps, each of which is run whatever became of the ones before it. -/
def Session.outcomes (p : Profile) (s : Session) : List Step → List Session.Outcome
  | [] => []
  | step :: steps =>
    let outcome := step.run p s
    outcome :: outcome.2.outcomes p steps

end ClientGen
