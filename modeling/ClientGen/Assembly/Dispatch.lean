import ClientGen.Assembly.Member

namespace ClientGen

/-- Something to assemble. -/
inductive Context where
  | operation (op : Operation)
  /-- Something known by its kind only. -/
  | bare (kind : String)
  deriving DecidableEq

def operationKind : String :=
  "client_method"

def Context.kind : Context → String
  | .operation _ => operationKind
  | .bare kind => kind

/-- What assembles, or stands in for it. -/
inductive Assembler where
  | members (p : Profile)
  /-- Leaves the class alone, and tells which class it was asked to edit. -/
  | recorder (kind : String)
  deriving DecidableEq

def Assembler.supports : Assembler → (kind : String) → Bool
  | .members _, kind => kind == operationKind
  | .recorder own, kind => own == kind

/-- That a recorder was asked: its place among the assemblers, and the class. -/
structure Sighting where
  assembler : Nat
  className : String
  deriving DecidableEq

/-- Assembles with the first of the assemblers, counted from `index`, that supports the context. -/
def dispatchFrom (index : Nat) (ctx : Context) : List Assembler → Edit AssemblyError (Option Sighting)
  | [] => throw (.unsupported ctx.kind)
  | a :: rest =>
    if a.supports ctx.kind then
      match a, ctx with
      | .members p, .operation op => do
        assemble p op
        return none
      | .members _, .bare kind => throw (.unsupported kind)
      | .recorder _, _ => do
        return some ⟨index, ← Edit.read ClassModel.name⟩
    else dispatchFrom (index + 1) ctx rest

def dispatch (assemblers : List Assembler) (ctx : Context) :
    Edit AssemblyError (Option Sighting) :=
  dispatchFrom 0 ctx assemblers

end ClientGen
