import ClientGen.Proofs.Mention
import ClientGen.Source

namespace ClientGen

theorem mapM_eq_ok_map {ε α β : Type} {f : α → Except ε β} {g : α → β} {xs : List α}
    (h : ∀ x ∈ xs, f x = .ok (g x)) : xs.mapM f = .ok (xs.map g) := by
  induction xs with
  | nil => rfl
  | cons x xs ih =>
    have hx := h x List.mem_cons_self
    have hxs := ih fun y hy => h y (List.mem_cons_of_mem x hy)
    rw [List.mapM_cons, hx, hxs]
    rfl

/-- All types of the member are well formed, and its documentation is not wrapped. -/
structure Member.IsEmittable (member : Member) : Prop where
  returnType : TypeName.isWellFormed member.returnType = true
  arguments : ∀ a ∈ member.arguments, TypeName.isWellFormed a.type = true
  unwrapped : ∀ d, member.docBlock = some d → d.wordWrap = false

structure ClassModel.IsEmittable (m : ClassModel) : Prop where
  base : ∀ b, m.base = some b → TypeName.isWellFormed b = true
  members : ∀ member ∈ m.members.toList, member.IsEmittable

def ClassModel.spelled (m : ClassModel) (name : String) : String :=
  m.spell (TypeName.ofText name)

theorem ClassModel.lookUp_of_wellFormed (m : ClassModel) {name : String}
    (h : TypeName.isWellFormed name = true) : m.lookUp name = .ok (m.spelled name) := by
  rw [lookUp, TypeName.parse_of_wellFormed h]
  rfl

namespace Source

def writtenArgument (m : ClassModel) (a : Argument) : String :=
  a.name ++ ": " ++ m.spelled a.type

def defLine (m : ClassModel) (member : Member) : String :=
  indent ++ "def " ++ member.name ++ "("
    ++ ", ".intercalate ("self" :: member.arguments.map (writtenArgument m)) ++ ") -> "
    ++ m.spelled member.returnType ++ ":"

def docstringLines (d : DocBlock) : List String :=
  (docLines d).map fun line => indented (indent ++ indent) (escaped line)

def docstring : Option DocBlock → List String
  | none => []
  | some d =>
    docstringMark (indent ++ indent) :: docstringLines d ++ [docstringMark (indent ++ indent)]

def writtenMember (m : ClassModel) (member : Member) : List String :=
  defLine m member :: docstring member.docBlock
    ++ (Text.linesOf member.body).map (indented (indent ++ indent))

def openingLine (m : ClassModel) : String :=
  match m.base with
  | none => "class " ++ m.name ++ ":"
  | some base => "class " ++ m.name ++ "(" ++ m.spelled base ++ "):"

def bodyLines (m : ClassModel) : List String :=
  if m.members.toList.isEmpty then [indent ++ "pass"]
  else [""].intercalate (m.members.toList.map (writtenMember m))

theorem memberLines_of_emittable (m : ClassModel) {member : Member} (h : member.IsEmittable) :
    memberLines m member = .ok (writtenMember m member) := by
  have ha : member.arguments.mapM (argument m) =
      .ok (member.arguments.map (writtenArgument m)) := by
    apply mapM_eq_ok_map
    intro a ha
    rw [argument, m.lookUp_of_wellFormed (h.arguments a ha)]
    rfl
  rw [memberLines, ha, m.lookUp_of_wellFormed h.returnType]
  cases hd : member.docBlock with
  | none =>
    simp only [writtenMember, docstring, hd]
    rfl
  | some d =>
    simp only [writtenMember, docstring, hd, docBlockLines, h.unwrapped d hd]
    rfl

theorem classLine_of_emittable {m : ClassModel} (h : m.IsEmittable) :
    classLine m = .ok (openingLine m) := by
  rw [classLine, openingLine]
  cases hb : m.base with
  | none => rfl
  | some base =>
    have hw := h.base base hb
    have hne : (base == "") = false := by
      cases he : base == "" with
      | false => rfl
      | true =>
        rw [eq_of_beq he] at hw
        cases hw
    simp only [hne, Bool.false_eq_true, if_false, m.lookUp_of_wellFormed hw]
    rfl

theorem classLines_of_emittable {m : ClassModel} (h : m.IsEmittable) :
    classLines m = .ok (openingLine m :: bodyLines m) := by
  have hm : m.members.toList.mapM (memberLines m) =
      .ok (m.members.toList.map (writtenMember m)) :=
    mapM_eq_ok_map fun member hmem => memberLines_of_emittable m (h.members member hmem)
  rw [classLines, classLine_of_emittable h, hm, bodyLines]
  cases hl : m.members.toList <;> rfl

def moduleLines (futureAnnotations : Bool) (m : ClassModel) : List String :=
  headLines futureAnnotations m.imports ++ openingLine m :: bodyLines m

def emitted (futureAnnotations : Bool) (m : ClassModel) : String :=
  Text.trimmedEnd (Text.joinLines (moduleLines futureAnnotations m)) ++ "\n"

theorem render_of_emittable (futureAnnotations : Bool) {m : ClassModel} (h : m.IsEmittable) :
    render futureAnnotations m = .ok (emitted futureAnnotations m) := by
  rw [render, classLines_of_emittable h]
  rfl

end Source

end ClientGen
