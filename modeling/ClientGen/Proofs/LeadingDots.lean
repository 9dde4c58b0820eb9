import ClientGen.Proofs.Generation
import ClientGen.Proofs.Spelling
import Mathlib.Data.List.DropRight

namespace ClientGen

theorem TypeName.splitSegments_stripped (given : String) :
    splitSegments (stripped given) = splitSegments given := by
  have hd : (given.toList.dropWhile (· == '.')).dropWhile (· == '.') =
      given.toList.dropWhile (· == '.') :=
    List.dropWhile_idempotent _ _
  rw [splitSegments, stripped, String.toList_ofList, hd, splitSegments]

theorem TypeName.isWellFormed_stripped (given : String) :
    isWellFormed (stripped given) = isWellFormed given := by
  rw [isWellFormed, splitSegments_stripped, isWellFormed]

theorem TypeName.ofText_stripped (given : String) : ofText (stripped given) = ofText given := by
  rw [ofText, splitSegments_stripped, ofText]

def Parameter.undotted (x : Parameter) : Parameter :=
  { x with type := TypeName.stripped x.type }

/-- The operation with its types written without leading dots. -/
def Operation.undotted (op : Operation) : Operation :=
  { op with
    parameters := op.parameters.map Parameter.undotted
    returnType := TypeName.stripped op.returnType }

def Service.undotted (s : Service) : Service :=
  { s with operations := s.operations.map Operation.undotted }

def Profile.undotted (p : Profile) : Profile :=
  { p with
    clientBase := TypeName.stripped p.clientBase
    multiArgumentType := TypeName.stripped p.multiArgumentType
    requestInterface := TypeName.stripped p.requestInterface
    resultInterface := TypeName.stripped p.resultInterface
    faultType := TypeName.stripped p.faultType }

def Argument.undotted (a : Argument) : Argument :=
  { a with type := TypeName.stripped a.type }

def Member.undotted (member : Member) : Member :=
  { member with
    returnType := TypeName.stripped member.returnType
    arguments := member.arguments.map Argument.undotted }

def Members.undotted (ms : Members) : Members where
  toList := ms.toList.map Member.undotted
  distinct := by
    have hn : (ms.toList.map Member.undotted).map Member.name = ms.toList.map Member.name :=
      List.map_map
    rw [hn]
    exact ms.distinct

/-- The class with its declared types written without leading dots. What is imported and what is
documented has none. -/
def ClassModel.undotted (m : ClassModel) : ClassModel :=
  { m with base := m.base.map TypeName.stripped, members := m.members.undotted }

/-- The text is made from the same class, and does not change. -/
def Generated.undotted (g : Generated) : Generated :=
  { g with model := g.model.undotted }

def Fault.undotted : Fault → Fault
  | .malformedTypeName given => .malformedTypeName (TypeName.stripped given)
  | f => f

def AssemblyError.undotted : AssemblyError → AssemblyError
  | .member wireName cause => .member wireName cause.undotted
  | e => e

def GenerationError.undotted : GenerationError → GenerationError
  | .assembly e => .assembly e.undotted
  | e => e

namespace Mention

def undotted (r : Mention) : Mention :=
  { r with name := TypeName.stripped r.name }

theorem short_undotted (home : String) (r : Mention) : r.undotted.short home = r.short home := by
  rw [short, spelling, undotted, TypeName.ofText_stripped]
  rfl

theorem needs_undotted (home : String) (r : Mention) : r.undotted.needs home = r.needs home := by
  rw [needs, spelling, undotted, TypeName.ofText_stripped]
  rfl

theorem isWellFormed_undotted (r : Mention) : r.undotted.isWellFormed = r.isWellFormed :=
  TypeName.isWellFormed_stripped r.name

theorem firstFault?_undotted (rs : List Mention) :
    firstFault? (rs.map undotted) = (firstFault? rs).map Fault.undotted := by
  have hf : (fun r : Mention => !r.isWellFormed) ∘ undotted = fun r => !r.isWellFormed := by
    funext r
    rw [Function.comp_apply, isWellFormed_undotted]
  rw [firstFault?, List.find?_map, hf, firstFault?, Option.map_map, Option.map_map]
  rfl

end Mention

theorem ClassModel.referAll_undotted (m : ClassModel) (rs : List Mention) :
    m.undotted.referAll (rs.map Mention.undotted) = (m.referAll rs).undotted := by
  have hn : Mention.needs m.home ∘ Mention.undotted = Mention.needs m.home :=
    funext (Mention.needs_undotted m.home)
  have hm : (rs.map Mention.undotted).filterMap (Mention.needs m.home) =
      rs.filterMap (Mention.needs m.home) := by
    rw [List.filterMap_map, hn]
  have hh : m.undotted.home = m.home := rfl
  rw [referAll, hh, hm]
  rfl

namespace Assembly

theorem docMentions_undotted (p : Profile) (op : Operation) :
    docMentions p.undotted op.undotted = (docMentions p op).map Mention.undotted := by
  have hx : op.undotted.parameters = op.parameters.map Parameter.undotted := rfl
  rw [docMentions, docMentions, hx]
  rcases op.parameters with _ | ⟨x, _ | ⟨y, ys⟩⟩
  · rfl
  · rfl
  · simp only [List.map_cons, List.map_append, List.map_map]
    rfl

theorem mentions_undotted (p : Profile) (op : Operation) :
    mentions p.undotted op.undotted = (mentions p op).map Mention.undotted := by
  rw [mentions, docMentions_undotted]
  rfl

theorem argumentFault?_undotted (op : Operation) :
    argumentFault? op.undotted = (argumentFault? op).map Fault.undotted := by
  have hx : op.undotted.parameters = op.parameters.map Parameter.undotted := rfl
  rw [argumentFault?, argumentFault?, hx]
  rcases op.parameters with _ | ⟨x, _ | ⟨y, ys⟩⟩
  · rfl
  · have hf := Mention.firstFault?_undotted [⟨.withParent, x.type⟩]
    simp only [List.map_cons, List.map_nil, Parameter.undotted]
    split
    · exact hf
    · rfl
  · rfl

theorem fault?_undotted (p : Profile) (op : Operation) :
    fault? p.undotted op.undotted = (fault? p op).map Fault.undotted := by
  have hb := Mention.firstFault?_undotted [⟨.plain, p.clientBase⟩]
  have hbase : Mention.firstFault? [⟨.plain, p.undotted.clientBase⟩] =
      (Mention.firstFault? [⟨.plain, p.clientBase⟩]).map Fault.undotted := hb
  rw [fault?, fault?, hbase, argumentFault?_undotted, docMentions_undotted,
    Mention.firstFault?_undotted, Option.map_or, Option.map_or]

theorem writtenDocBlock_undotted (home : String) (p : Profile) (op : Operation) :
    writtenDocBlock p.undotted op.undotted (Mention.short home) =
      writtenDocBlock p op (Mention.short home) := by
  have hs (form : TypeName.Form) (name : String) :
      Mention.short home ⟨form, TypeName.stripped name⟩ = Mention.short home ⟨form, name⟩ :=
    Mention.short_undotted home ⟨form, name⟩
  have hline (x : Parameter) : writtenParameterLine (Mention.short home) x.undotted =
      writtenParameterLine (Mention.short home) x := by
    rw [writtenParameterLine, Parameter.undotted, hs, writtenParameterLine]
  have hreturn : writtenReturnTag p.undotted op.undotted.returnType (Mention.short home) =
      writtenReturnTag p op.returnType (Mention.short home) := by
    rw [writtenReturnTag, Profile.undotted, Operation.undotted, hs, hs, writtenReturnTag]
  have hthrows : writtenThrowsTag p.undotted (Mention.short home) =
      writtenThrowsTag p (Mention.short home) := by
    rw [writtenThrowsTag, Profile.undotted, hs, writtenThrowsTag]
  have hx : op.undotted.parameters = op.parameters.map Parameter.undotted := rfl
  rw [writtenDocBlock, writtenDocBlock, hx, hreturn, hthrows]
  rcases op.parameters with _ | ⟨x, _ | ⟨y, ys⟩⟩
  · rfl
  · simp only [List.map_cons, List.map_nil, Parameter.undotted, Profile.undotted, hs]
  · simp only [List.map_cons, hline, List.map_map, Function.comp_def, Profile.undotted, hs]

theorem argumentList_undotted (p : Profile) (op : Operation) :
    argumentList p.undotted op.undotted = (argumentList p op).map Argument.undotted := by
  have hx : op.undotted.parameters = op.parameters.map Parameter.undotted := rfl
  rw [argumentList, argumentList, hx]
  rcases op.parameters with _ | ⟨x, _ | ⟨y, ys⟩⟩ <;> rfl

theorem body_undotted (p : Profile) (op : Operation) :
    body p.undotted op.undotted = body p op := by
  have hname : argumentName? p.undotted op.undotted = argumentName? p op := by
    have hx : op.undotted.parameters = op.parameters.map Parameter.undotted := rfl
    rw [argumentName?, argumentName?, hx]
    rcases op.parameters with _ | ⟨x, _ | ⟨y, ys⟩⟩ <;> rfl
  rw [body, body, hname]
  rfl

theorem memberOf_undotted (home : String) (p : Profile) (op : Operation) :
    memberOf home p.undotted op.undotted = (memberOf home p op).undotted := by
  rw [memberOf, body_undotted, argumentList_undotted, writtenDocBlock_undotted]
  rfl

end Assembly

theorem Members.toList_undotted (ms : Members) :
    ms.undotted.toList = ms.toList.map Member.undotted :=
  rfl

theorem Members.put_erase_undotted (ms : Members) (member : Member) :
    (ms.undotted.erase member.name).put member.undotted =
      ((ms.erase member.name).put member).undotted := by
  apply eq_of_toList
  have hold := ms.toList_put_erase member
  have hnew := ms.undotted.toList_put_erase member.undotted
  have hn : member.undotted.name = member.name := rfl
  rw [hn] at hnew
  rw [hnew, toList_undotted, toList_undotted, hold, List.filter_map, List.map_append]
  rfl

namespace Assembly

theorem installed_undotted (p : Profile) (op : Operation) (m : ClassModel) :
    installed p.undotted op.undotted m.undotted = (installed p op m).undotted := by
  have hmembers : (m.undotted.members.erase (nameOf p op)).put (memberOf m.home p op).undotted =
      ((m.members.erase (nameOf p op)).put (memberOf m.home p op)).undotted :=
    m.members.put_erase_undotted (memberOf m.home p op)
  have hbuilt : ((m.undotted.setBase p.undotted.clientBase).removeMember (nameOf p op)).addMember
        (memberOf m.home p op).undotted =
      (((m.setBase p.clientBase).removeMember (nameOf p op)).addMember
        (memberOf m.home p op)).undotted :=
    congrArg (fun ms => { m.undotted with
      base := some (TypeName.stripped p.clientBase), members := ms }) hmembers
  have hh : m.undotted.home = m.home := rfl
  have hn : nameOf p.undotted op.undotted = nameOf p op := rfl
  rw [installed, hh, hn, memberOf_undotted, hbuilt, mentions_undotted,
    ClassModel.referAll_undotted, installed]

theorem assembled_undotted (p : Profile) (ops : List Operation) (m : ClassModel) :
    assembled p.undotted (ops.map Operation.undotted) m.undotted = (assembled p ops m).undotted := by
  induction ops generalizing m with
  | nil => rfl
  | cons op ops ih =>
    have hstep := ih (installed p op m)
    rw [← installed_undotted] at hstep
    exact hstep

end Assembly

theorem ClassModel.spelled_undotted (m : ClassModel) (name : String) :
    m.undotted.spelled (TypeName.stripped name) = m.spelled name := by
  rw [spelled, TypeName.ofText_stripped]
  rfl

namespace Source

theorem defLine_undotted (m : ClassModel) (member : Member) :
    defLine m.undotted member.undotted = defLine m member := by
  have ha : writtenArgument m.undotted ∘ Argument.undotted = writtenArgument m := by
    funext a
    have ht := m.spelled_undotted a.type
    rw [Function.comp_apply, writtenArgument, Argument.undotted, ht, writtenArgument]
  have hr : m.undotted.spelled member.undotted.returnType = m.spelled member.returnType :=
    m.spelled_undotted member.returnType
  have harguments : member.undotted.arguments = member.arguments.map Argument.undotted := rfl
  rw [defLine, hr, harguments, List.map_map, ha]
  rfl

theorem writtenMember_undotted (m : ClassModel) (member : Member) :
    writtenMember m.undotted member.undotted = writtenMember m member := by
  rw [writtenMember, defLine_undotted]
  rfl

theorem openingLine_undotted (m : ClassModel) : openingLine m.undotted = openingLine m := by
  have hb : m.undotted.base = m.base.map TypeName.stripped := rfl
  rw [openingLine, openingLine, hb]
  cases m.base with
  | none => rfl
  | some base =>
    have hs := m.spelled_undotted base
    simp only [Option.map_some, hs]
    rfl

theorem bodyLines_undotted (m : ClassModel) : bodyLines m.undotted = bodyLines m := by
  have hl : m.undotted.members.toList = m.members.toList.map Member.undotted := rfl
  have hw : writtenMember m.undotted ∘ Member.undotted = writtenMember m :=
    funext (writtenMember_undotted m)
  rw [bodyLines, hl, List.isEmpty_map, List.map_map, hw, bodyLines]

theorem emitted_undotted (futureAnnotations : Bool) (m : ClassModel) :
    emitted futureAnnotations m.undotted = emitted futureAnnotations m := by
  rw [emitted, moduleLines, openingLine_undotted, bodyLines_undotted]
  rfl

end Source

open Assembly

theorem failure?_undotted (p : Profile) (ops : List Operation) :
    failure? p.undotted (ops.map Operation.undotted) =
      (failure? p ops).map AssemblyError.undotted := by
  induction ops with
  | nil => rfl
  | cons op ops ih =>
    rw [failure?] at ih ⊢
    rw [failure?] at ih ⊢
    rw [List.map_cons, List.findSome?_cons, List.findSome?_cons, fault?_undotted, ih]
    cases fault? p op <;> rfl

theorem generate_of_undotted (p : Profile) (s : Service) :
    generate p.undotted s.undotted =
      ((generate p s).map Generated.undotted).mapError GenerationError.undotted := by
  have hf := failure?_undotted p s.operations
  cases hs : failure? p s.operations with
  | some e =>
    rw [hs] at hf
    rw [generate_of_failure hs, generate_of_failure (s := s.undotted) hf]
    rfl
  | none =>
    rw [hs] at hf
    have hm : assembled p.undotted s.undotted.operations s.undotted.emptyClass =
        (assembled p s.operations s.emptyClass).undotted :=
      assembled_undotted p s.operations s.emptyClass
    rw [generate_of_faultless hs, generate_of_faultless (s := s.undotted) hf, hm,
      Source.emitted_undotted]
    rfl

/-- Generation fails at the operation of an index: those before it are assembled, and it cannot be
assembled on the class they give. -/
def FailsAt (p : Profile) (s : Service) (index : Nat) (e : AssemblyError) : Prop :=
  ∃ before op after seen m, s.operations = before ++ op :: after ∧ before.length = index ∧
    dispatchAll [.members p] before s.emptyClass = (.ok seen, m) ∧ (assemble p op m).1 = .error e

theorem failsAt_iff {p : Profile} {s : Service} {index : Nat} {e : AssemblyError} :
    FailsAt p s index e ↔
      ∃ before op after, s.operations = before ++ op :: after ∧ before.length = index ∧
        failure? p before = none ∧ (fault? p op).map (.member op.wireName) = some e := by
  constructor
  · rintro ⟨before, op, after, seen, m, hops, hlength, hd, he⟩
    refine ⟨before, op, after, hops, hlength, ?_, assemble_alone_error_iff.1 he⟩
    cases hf : failure? p before with
    | none => rfl
    | some f =>
      have hfails := dispatchAll_of_failure hf s.emptyClass
      rw [hd] at hfails
      cases hfails
  · rintro ⟨before, op, after, hops, hlength, hf, he⟩
    have hd := dispatchAll_of_faultless (failure?_eq_none_iff.1 hf) s.emptyClass
    exact ⟨before, op, after, _, _, hops, hlength, hd, assemble_alone_error_iff.2 he⟩

theorem generate_of_failsAt {p : Profile} {s : Service} {index : Nat} {e : AssemblyError}
    (h : FailsAt p s index e) : generate p s = .error (.assembly e) := by
  obtain ⟨before, op, after, hops, -, hf, he⟩ := failsAt_iff.1 h
  apply generate_of_failure
  rw [failure?] at hf ⊢
  rw [hops, List.findSome?_append, hf, List.findSome?_cons, he]
  rfl

theorem failsAt_undotted_iff {p : Profile} {s : Service} {index : Nat} :
    (∃ e, FailsAt p.undotted s.undotted index e) ↔ ∃ e, FailsAt p s index e := by
  simp only [failsAt_iff]
  constructor
  · rintro ⟨e, before, op, after, hops, hlength, hf, he⟩
    obtain ⟨front, back, hs, rfl, hback⟩ := List.map_eq_append_iff.1 hops
    obtain ⟨op, after, rfl, rfl, rfl⟩ := List.map_eq_cons_iff.1 hback
    rw [failure?_undotted, Option.map_eq_none_iff] at hf
    rw [fault?_undotted] at he
    obtain ⟨f, hf', -⟩ := Option.map_eq_some_iff.1 he
    obtain ⟨f, hop, -⟩ := Option.map_eq_some_iff.1 hf'
    refine ⟨_, front, op, after, hs, ?_, hf, congrArg _ hop⟩
    rw [← hlength, List.length_map]
  · rintro ⟨e, before, op, after, hops, hlength, hf, he⟩
    obtain ⟨f, hop, -⟩ := Option.map_eq_some_iff.1 he
    have hs : s.undotted.operations = s.operations.map Operation.undotted := rfl
    refine ⟨_, before.map Operation.undotted, op.undotted, after.map Operation.undotted, ?_, ?_, ?_,
      congrArg _ ((fault?_undotted p op).trans (congrArg _ hop))⟩
    · rw [hs, hops, List.map_append, List.map_cons]
    · rw [List.length_map, hlength]
    · rw [failure?_undotted, hf]
      rfl

/-- Writing all type names of a service and a profile without leading dots gives the same run: it
fails if and only if it did, at the same operation, with the names in the message written so, and a
client has the same text, imports and documentation. -/
theorem generate_undotted (p : Profile) (s : Service) :
    generate p.undotted s.undotted =
      ((generate p s).map Generated.undotted).mapError GenerationError.undotted ∧
    (∀ index, (∃ e, FailsAt p s index e ∧ generate p s = .error (.assembly e)) ↔
      ∃ e, FailsAt p.undotted s.undotted index e ∧
        generate p.undotted s.undotted = .error (.assembly e)) ∧
    ((∃ g, generate p s = .ok g) ↔ ∃ g, generate p.undotted s.undotted = .ok g) ∧
    ∀ g g', generate p s = .ok g → generate p.undotted s.undotted = .ok g' →
      g'.code = g.code ∧ g'.model.imports = g.model.imports ∧
        g'.model.members.toList.map (fun x => (x.name, x.docBlock)) =
          g.model.members.toList.map fun x => (x.name, x.docBlock) := by
  have hrun := generate_of_undotted p s
  refine ⟨hrun, fun index => ?_, ?_, ?_⟩
  · have hat (p : Profile) (s : Service) :
        (∃ e, FailsAt p s index e ∧ generate p s = .error (.assembly e)) ↔
          ∃ e, FailsAt p s index e :=
      exists_congr fun e => and_iff_left_of_imp generate_of_failsAt
    rw [hat, hat, failsAt_undotted_iff]
  · rw [hrun]
    cases generate p s with
    | ok g => exact ⟨fun _ => ⟨_, rfl⟩, fun _ => ⟨_, rfl⟩⟩
    | error e =>
      constructor
      · rintro ⟨_, h⟩
        cases h
      · rintro ⟨_, h⟩
        cases h
  · intro g g' hg hg'
    rw [hrun, hg] at hg'
    cases hg'
    exact ⟨rfl, rfl, List.map_map⟩

def relativelyTyped : Service where
  className := "LookupClient"
  home := "app.client"
  operations := [
    ⟨{ wireName := "GetUser", parameters := [{ name := "key", type := "..app.types.Key" }]
       returnType := ".app.types.User" }, by decide⟩]
  className_ok := by decide

theorem relativelyTyped_undotted :
    relativelyTyped.undotted.operations.map (fun op => op.returnType) = ["app.types.User"] ∧
    ∃ g g', generate .standard relativelyTyped = .ok g ∧
      generate Profile.standard.undotted relativelyTyped.undotted = .ok g' ∧ g'.code = g.code ∧
      g'.model.imports = g.model.imports := by
  refine ⟨by decide, ?_⟩
  have hg := generate_of_faultless (p := .standard) (s := relativelyTyped) (by decide)
  obtain ⟨-, -, hboth, hsame⟩ := generate_undotted .standard relativelyTyped
  obtain ⟨g', hg'⟩ := hboth.1 ⟨_, hg⟩
  obtain ⟨hcode, himports, -⟩ := hsame _ g' hg hg'
  exact ⟨_, g', hg, hg', hcode, himports⟩

end ClientGen
