import ClientGen.Proofs.Assembly
import ClientGen.Proofs.Profile
import ClientGen.Proofs.Spelling

namespace ClientGen

namespace Assembly

/-- Something that has to be in order for a member to be assembled. -/
inductive Check where
  | typeName (given : String)
  | parameterName (given : String)
  deriving DecidableEq

namespace Check

def IsMet : Check → Prop
  | .typeName given => IsDotted (TypeName.stripped given)
  | .parameterName given => isIdentifier given = true ∧ isKeyword given = false ∧ given ≠ "self"

def fault : Check → Fault
  | .typeName given => .malformedTypeName given
  | .parameterName given => .invalidParameterName given

/-- `IsMet` as assembling tests it. -/
def isMet : Check → Bool
  | .typeName given => TypeName.isWellFormed given
  | .parameterName given => isParameterName given

theorem isMet_iff {c : Check} : c.isMet = true ↔ c.IsMet := by
  cases c with
  | typeName given => exact TypeName.isWellFormed_iff
  | parameterName given => exact isParameterName_iff

instance : DecidablePred IsMet :=
  fun _ => decidable_of_iff _ isMet_iff

def firstFault? (cs : List Check) : Option Fault :=
  (cs.find? fun c => !c.isMet).map fault

theorem firstFault?_cons (c : Check) (cs : List Check) :
    firstFault? (c :: cs) = if c.isMet then firstFault? cs else some c.fault := by
  cases hc : c.isMet with
  | true => simp only [firstFault?, List.find?_cons, hc, Bool.not_true, if_true]
  | false =>
    simp only [firstFault?, List.find?_cons, hc, Bool.not_false, Option.map_some,
      Bool.false_eq_true, if_false]

theorem firstFault?_append (cs ds : List Check) :
    firstFault? (cs ++ ds) = (firstFault? cs).or (firstFault? ds) := by
  simp only [firstFault?, List.find?_append, Option.map_or]

theorem firstFault?_mentions (rs : List Mention) :
    firstFault? (rs.map fun r => .typeName r.name) = Mention.firstFault? rs := by
  rw [firstFault?, List.find?_map, Option.map_map]
  rfl

theorem firstFault?_eq_some_iff {cs : List Check} {f : Fault} :
    firstFault? cs = some f ↔
      ∃ before c after, cs = before ++ c :: after ∧ (∀ b ∈ before, b.IsMet) ∧ ¬c.IsMet ∧
        f = c.fault := by
  simp only [firstFault?, Option.map_eq_some_iff, List.find?_eq_some_iff_append, Bool.not_eq_true',
    Bool.not_eq_false', ← isMet_iff, Bool.not_eq_true]
  constructor
  · rintro ⟨c, ⟨hc, before, after, he, hb⟩, rfl⟩
    exact ⟨before, c, after, he, hb, hc, rfl⟩
  · rintro ⟨before, c, after, he, hb, hc, rfl⟩
    exact ⟨c, ⟨hc, before, after, he, hb⟩, rfl⟩

theorem firstFault?_eq_none_iff {cs : List Check} :
    firstFault? cs = none ↔ ∀ c ∈ cs, c.IsMet := by
  simp only [firstFault?, Option.map_eq_none_iff, List.find?_eq_none, Bool.not_eq_true',
    Bool.not_eq_false, isMet_iff]

end Check

/-- The checks of an operation, in their order. The type of a single parameter is checked where the
parameter is declared, and again where it is documented. -/
def checks (p : Profile) (op : Operation) : List Check :=
  .typeName p.clientBase ::
    match op.parameters with
    | [] => [.typeName p.resultInterface, .typeName op.returnType, .typeName p.faultType]
    | [x] => [.parameterName x.name, .typeName x.type, .typeName p.requestInterface,
        .typeName x.type, .typeName p.resultInterface, .typeName op.returnType,
        .typeName p.faultType]
    | xs => xs.map (fun x => .typeName x.type) ++ [.typeName p.multiArgumentType,
        .typeName p.resultInterface, .typeName op.returnType]

/-- The checks of declared parameters. -/
def argumentChecks (op : Operation) : List Check :=
  match op.parameters with
  | [x] => [.parameterName x.name, .typeName x.type]
  | _ => []

theorem checks_eq (p : Profile) (op : Operation) :
    checks p op = [.typeName p.clientBase] ++ (argumentChecks op ++
      (docMentions p op).map fun r => .typeName r.name) := by
  rw [checks, argumentChecks, docMentions]
  cases op.parameters with
  | nil => rfl
  | cons x xs =>
    cases xs with
    | nil => rfl
    | cons y ys => simp [returnMentions]

theorem argumentFault?_eq_firstFault? (op : Operation) :
    argumentFault? op = Check.firstFault? (argumentChecks op) := by
  rw [argumentFault?, argumentChecks]
  cases op.parameters with
  | nil => rfl
  | cons x xs =>
    cases xs with
    | nil =>
      have htype := Check.firstFault?_mentions [⟨.withParent, x.type⟩]
      rw [List.map_singleton] at htype
      rw [Check.firstFault?_cons, htype]
      rfl
    | cons y ys => rfl

theorem fault?_eq_firstFault? (p : Profile) (op : Operation) :
    fault? p op = Check.firstFault? (checks p op) := by
  have hbase := Check.firstFault?_mentions [⟨.plain, p.clientBase⟩]
  rw [List.map_singleton] at hbase
  rw [checks_eq, Check.firstFault?_append, Check.firstFault?_append, Check.firstFault?_mentions,
    hbase, ← argumentFault?_eq_firstFault?, fault?]

theorem fault?_eq_some_iff {p : Profile} {op : Operation} {f : Fault} :
    fault? p op = some f ↔
      ∃ before c after, checks p op = before ++ c :: after ∧ (∀ b ∈ before, b.IsMet) ∧
        ¬c.IsMet ∧ f = c.fault := by
  rw [fault?_eq_firstFault?, Check.firstFault?_eq_some_iff]

theorem fault?_eq_none_iff {p : Profile} {op : Operation} :
    fault? p op = none ↔ ∀ c ∈ checks p op, c.IsMet := by
  rw [fault?_eq_firstFault?, Check.firstFault?_eq_none_iff]

theorem assemble_fails_iff_unmet {p : Profile} {op : Operation} {m : ClassModel} :
    (∃ e m', assemble p op m = (.error e, m')) ↔ ∃ c ∈ checks p op, ¬c.IsMet := by
  constructor
  · rintro ⟨e, m', h⟩
    obtain ⟨-, f, hf, -⟩ := assemble_eq_error_iff.1 h
    obtain ⟨before, c, after, he, -, hc, -⟩ := fault?_eq_some_iff.1 hf
    exact ⟨c, he ▸ List.mem_append_right before List.mem_cons_self, hc⟩
  · rintro ⟨c, hmem, hc⟩
    cases hf : fault? p op with
    | none => exact absurd (fault?_eq_none_iff.1 hf c hmem) hc
    | some f => exact ⟨_, m, assemble_of_fault hf m⟩

/-- Whether assembling goes through, and what is told if it does not, is settled by the
operation. -/
theorem assemble_outcome_eq (p : Profile) (op : Operation) (m m' : ClassModel) :
    (assemble p op m').1 = (assemble p op m).1 := by
  rw [assemble_run, assemble_run]
  cases fault? p op with
  | none => rfl
  | some f => rfl

end Assembly

open Assembly

/-- Assembling fails if and only if some check of the operation is not met. The class is then as it
was, and the error tells of the operation and of the first such check. What the class holds does not
count. -/
theorem assemble_fails_iff (p : Profile) (op : Operation) (m : ClassModel) :
    ((∃ e m', assemble p op m = (.error e, m')) ↔ ∃ c ∈ checks p op, ¬c.IsMet) ∧
    (∀ e m', assemble p op m = (.error e, m') ↔
      m' = m ∧ ∃ before c after, checks p op = before ++ c :: after ∧
        (∀ b ∈ before, b.IsMet) ∧ ¬c.IsMet ∧ e = .member op.wireName c.fault ∧
        e.message = "Could not assemble member for " ++ Text.quoted op.wireName ++ ": " ++
          c.fault.message) ∧
    ∀ m' : ClassModel, (assemble p op m').1 = (assemble p op m).1 := by
  refine ⟨assemble_fails_iff_unmet, fun e m' => ?_, assemble_outcome_eq p op m⟩
  rw [assemble_eq_error_iff]
  refine and_congr_right fun _ => ?_
  constructor
  · rintro ⟨f, hf, rfl⟩
    obtain ⟨before, c, after, he, hb, hc, rfl⟩ := fault?_eq_some_iff.1 hf
    exact ⟨before, c, after, he, hb, hc, rfl, rfl⟩
  · rintro ⟨before, c, after, he, hb, hc, rfl, -⟩
    exact ⟨_, fault?_eq_some_iff.2 ⟨before, c, after, he, hb, hc, rfl⟩, rfl⟩

def muddled : Operation :=
  ⟨{ wireName := "Muddle", parameters := [{ name := "class", type := "no type" }],
     returnType := "a-b" }, by decide⟩

theorem muddled_told : ∃ e, assemble .standard muddled { name := "C" } = (.error e, { name := "C" }) ∧
    e.message = "Could not assemble member for 'Muddle': Invalid parameter name: 'class'" := by
  have hfails := (assemble_fails_iff .standard muddled { name := "C" }).2.1
    (.member "Muddle" (.invalidParameterName "class")) { name := "C" }
  refine ⟨_, hfails.2 ⟨rfl, [_], .parameterName "class", _, rfl, ?_, ?_, rfl, rfl⟩, by decide⟩
  · decide
  · decide

end ClientGen
