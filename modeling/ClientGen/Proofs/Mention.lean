import ClientGen.Proofs.Edit
import ClientGen.Reference

namespace ClientGen

namespace TypeName

def isWellFormed (given : String) : Bool :=
  (splitSegments given).all isIdentifier

def ofText (given : String) : TypeName :=
  ⟨(splitSegments given).dropLast, (splitSegments given).getLastD ""⟩

theorem parse_of_wellFormed {given : String} (h : isWellFormed given = true) :
    parse given = .ok (ofText given) :=
  if_pos h

theorem parse_of_malformed {given : String} (h : isWellFormed given = false) :
    parse given = .error (.malformedTypeName given) :=
  if_neg (Bool.eq_false_iff.1 h)

end TypeName

/-- A type as a text mentions it: how much of its name is kept, and how the name is written. -/
structure Mention where
  form : TypeName.Form
  name : String
  deriving DecidableEq

namespace Mention

def isWellFormed (r : Mention) : Bool :=
  TypeName.isWellFormed r.name

def spelling (home : String) (r : Mention) : TypeName.Spelling :=
  (TypeName.ofText r.name).spell home r.form

/-- What a mention is shortened to in a class of the namespace `home`. -/
def short (home : String) (r : Mention) : String :=
  (r.spelling home).short

/-- What a mention needs to be imported in a class of the namespace `home`. -/
def needs (home : String) (r : Mention) : Option String :=
  (r.spelling home).needs

def firstFault? (rs : List Mention) : Option Fault :=
  (rs.find? fun r => !r.isWellFormed).map fun r => .malformedTypeName r.name

theorem firstFault?_append (rs qs : List Mention) :
    firstFault? (rs ++ qs) = (firstFault? rs).or (firstFault? qs) := by
  simp only [firstFault?, List.find?_append, Option.map_or]

theorem firstFault?_eq_none_iff {rs : List Mention} :
    firstFault? rs = none ↔ ∀ r ∈ rs, r.isWellFormed = true := by
  simp only [firstFault?, Option.map_eq_none_iff, List.find?_eq_none, Bool.not_eq_true',
    Bool.not_eq_false]

theorem firstFault?_of_wellFormed {name : String} (h : TypeName.isWellFormed name = true)
    (form : TypeName.Form) : firstFault? [⟨form, name⟩] = none :=
  firstFault?_eq_none_iff.2 fun r hr => by rw [List.mem_singleton.1 hr]; exact h

theorem firstFault?_of_malformed {name : String} (h : TypeName.isWellFormed name = false)
    (form : TypeName.Form) : firstFault? [⟨form, name⟩] = some (.malformedTypeName name) := by
  have hr : (⟨form, name⟩ : Mention).isWellFormed = false := h
  simp only [firstFault?, List.find?_cons, hr, Bool.not_false, Option.map_some]

theorem takeWhile_append_of_fault {rs : List Mention} {f : Fault} (h : firstFault? rs = some f)
    (qs : List Mention) : (rs ++ qs).takeWhile isWellFormed = rs.takeWhile isWellFormed := by
  induction rs with
  | nil => cases h
  | cons r rs ih =>
    cases hr : r.isWellFormed with
    | false => simp only [List.cons_append, List.takeWhile_cons, hr, Bool.false_eq_true, if_false]
    | true =>
      have ht : firstFault? rs = some f := by
        simpa only [firstFault?, List.find?_cons, hr, Bool.not_true] using h
      simp only [List.cons_append, List.takeWhile_cons, hr, if_true, ih ht]

end Mention

namespace ClassModel

/-- The class after mentions have been resolved one after the other. -/
def referAll (m : ClassModel) (rs : List Mention) : ClassModel :=
  { m with imports := m.imports.insertMany (rs.filterMap (Mention.needs m.home)) }

@[simp] theorem referAll_nil (m : ClassModel) : m.referAll [] = m :=
  rfl

theorem referAll_append (m : ClassModel) (rs qs : List Mention) :
    m.referAll (rs ++ qs) = (m.referAll rs).referAll qs := by
  simp only [referAll, ImportTable.insertMany, List.filterMap_append, List.foldl_append]

theorem refer_eq_referAll (m : ClassModel) (r : Mention) :
    m.refer (r.spelling m.home) = m.referAll [r] := by
  rw [refer, referAll]
  cases h : (r.spelling m.home).needs with
  | none => simp only [Mention.needs, h, List.filterMap_cons, List.filterMap_nil]; rfl
  | some name => simp only [Mention.needs, h, List.filterMap_cons, List.filterMap_nil]; rfl

end ClassModel

/-- The edit resolves the mentions in their order, and answers with what `answer` makes of their
short names. -/
def Edit.Resolves {α : Type} (act : Edit Fault α) (rs : List Mention)
    (answer : (Mention → String) → α) : Prop :=
  ∀ m, act m =
    match Mention.firstFault? rs with
    | none => (.ok (answer (Mention.short m.home)), m.referAll rs)
    | some f => (.error f, m.referAll (rs.takeWhile Mention.isWellFormed))

namespace Edit.Resolves
variable {α β : Type}

theorem run_ok {act : Edit Fault α} {rs : List Mention} {answer : (Mention → String) → α}
    (h : Resolves act rs answer) (hr : Mention.firstFault? rs = none) (m : ClassModel) :
    act m = (.ok (answer (Mention.short m.home)), m.referAll rs) := by
  rw [h m, hr]

theorem run_error {act : Edit Fault α} {rs : List Mention} {answer : (Mention → String) → α}
    (h : Resolves act rs answer) {f : Fault} (hr : Mention.firstFault? rs = some f)
    (m : ClassModel) : act m = (.error f, m.referAll (rs.takeWhile Mention.isWellFormed)) := by
  rw [h m, hr]

theorem pure (a : α) : Resolves (pure a) [] fun _ => a :=
  fun _ => rfl

theorem resolve (form : TypeName.Form) (name : String) :
    Resolves (resolve form name) [⟨form, name⟩] fun short => short ⟨form, name⟩ := by
  intro m
  cases h : TypeName.isWellFormed name with
  | true =>
    rw [Mention.firstFault?_of_wellFormed h, ClientGen.resolve,
      ofExcept_bind_ok (TypeName.parse_of_wellFormed h)]
    exact congrArg (Prod.mk _) (m.refer_eq_referAll ⟨form, name⟩)
  | false =>
    have hw : (⟨form, name⟩ : Mention).isWellFormed = false := h
    rw [Mention.firstFault?_of_malformed h, ClientGen.resolve,
      ofExcept_bind_error (TypeName.parse_of_malformed h)]
    simp only [List.takeWhile_cons, hw, Bool.false_eq_true, if_false, ClassModel.referAll_nil]

theorem bind {act : Edit Fault α} {next : α → Edit Fault β} {rs qs : List Mention}
    {f : (Mention → String) → α} {g : α → (Mention → String) → β} (h : Resolves act rs f)
    (hn : ∀ a, Resolves (next a) qs (g a)) :
    Resolves (act >>= next) (rs ++ qs) fun short => g (f short) short := by
  intro m
  rw [Mention.firstFault?_append]
  cases hr : Mention.firstFault? rs with
  | some e =>
    rw [bind_of_error (h.run_error hr m), Option.some_or, Mention.takeWhile_append_of_fault hr]
  | none =>
    have hw : ∀ r ∈ rs, r.isWellFormed = true := Mention.firstFault?_eq_none_iff.1 hr
    rw [bind_of_ok (h.run_ok hr m), hn, Option.none_or, ClassModel.referAll_append,
      List.takeWhile_append_of_pos hw, ClassModel.referAll_append]
    rfl

theorem keepsPlace {act : Edit Fault α} {rs : List Mention} {f : (Mention → String) → α}
    (h : Resolves act rs f) : act.KeepsPlace := by
  intro m
  rw [h m]
  cases Mention.firstFault? rs <;> exact ⟨rfl, rfl⟩

end Edit.Resolves

end ClientGen
