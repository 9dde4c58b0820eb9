import ClientGen.ClassModel.Member
import ClientGen.ImportTable

namespace ClientGen

/-- A class under construction. -/
structure ClassModel where
  name : String
  /-- Dotted path of the module the class is generated into. -/
  home : String := ""
  base : Option String := none
  members : Members := ∅
  imports : ImportTable := ∅
  deriving DecidableEq

namespace ClassModel

def setBase (m : ClassModel) (name : String) : ClassModel :=
  { m with base := some name }

def addImport (m : ClassModel) (name : String) : ClassModel :=
  { m with imports := m.imports.insert name }

def addMember (m : ClassModel) (member : Member) : ClassModel :=
  { m with members := m.members.put member }

def removeMember (m : ClassModel) (name : String) : ClassModel :=
  { m with members := m.members.erase name }

/-- The class with base, members and imports of another state of it. -/
def restore (m before : ClassModel) : ClassModel :=
  { m with base := before.base, members := before.members, imports := before.imports }

end ClassModel

/-- A program that edits a class and may fail. -/
abbrev Edit (ε : Type) := ExceptT ε (StateM ClassModel)

namespace Edit
variable {ε α : Type}

def ofExcept (x : Except ε α) : Edit ε α :=
  fun m => (x, m)

def update (f : ClassModel → ClassModel) : Edit ε Unit :=
  fun m => (.ok (), f m)

def read (f : ClassModel → α) : Edit ε α :=
  fun m => (.ok (f m), m)

/-- Restores base, members and imports if the program fails. -/
def transaction (act : Edit ε α) : Edit ε α :=
  fun m =>
    match act m with
    | (.ok a, m') => (.ok a, m')
    | (.error e, m') => (.error e, m'.restore m)

/-- The same program with its error told in other words. -/
def mapError {δ : Type} (f : ε → δ) (act : Edit ε α) : Edit δ α :=
  fun m =>
    match act m with
    | (.ok a, m') => (.ok a, m')
    | (.error e, m') => (.error (f e), m')

end Edit

end ClientGen
