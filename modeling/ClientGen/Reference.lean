import ClientGen.ClassModel.Basic
import ClientGen.TypeName

namespace ClientGen

namespace ClassModel

/-- The class after a reference: the import that the spelling needs is registered. -/
def refer (m : ClassModel) (s : TypeName.Spelling) : ClassModel :=
  match s.needs with
  | none => m
  | some name => m.addImport name

/-- Spells a name with the imports of the class: the leaf if the name or its namespace is in scope,
the parent and the leaf if the parent is, else the name in full. -/
def spell (m : ClassModel) (t : TypeName) : String :=
  match t.qualifiers.getLast? with
  | none => t.leaf
  | some parent =>
    if t.space == m.home || m.imports.has t.full then t.leaf
    else if m.imports.has t.space || t.outerSpace == m.home then dotted [parent, t.leaf]
    else t.full

/-- A written name as the imports of the class spell it. -/
def lookUp (m : ClassModel) (name : String) : Except Fault String :=
  (TypeName.parse name).map m.spell

end ClassModel

/-- Shortens a written name and registers the import it needs. -/
def resolve (form : TypeName.Form) (name : String) : Edit Fault String := do
  let t ← Edit.ofExcept (TypeName.parse name)
  let s ← Edit.read fun m => t.spell m.home form
  Edit.update fun m => m.refer s
  return s.short

end ClientGen
