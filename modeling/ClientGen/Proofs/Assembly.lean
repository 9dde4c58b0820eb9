import ClientGen.Assembly.Member
import ClientGen.Proofs.Mention

namespace ClientGen

/-- Whether the body of a member is a call of a method of its object. -/
def Member.Calls (member : Member) (method : String) : Prop :=
  ∃ rest, member.body = "return self." ++ method ++ "(" ++ rest

namespace Assembly

def returnMentions (p : Profile) (returnType : String) : List Mention :=
  [⟨.plain, p.resultInterface⟩, ⟨.withParent, returnType⟩]

def writtenReturnTag (p : Profile) (returnType : String) (short : Mention → String) : Tag :=
  ⟨"return", short ⟨.plain, p.resultInterface⟩ ++ "|" ++ short ⟨.withParent, returnType⟩⟩

def writtenThrowsTag (p : Profile) (short : Mention → String) : Tag :=
  ⟨"throws", short ⟨.plain, p.faultType⟩⟩

def writtenParameterLine (short : Mention → String) (x : Parameter) : String :=
  short ⟨.withParent, x.type⟩ ++ " " ++ x.name

/-- What the documentation of a member mentions, in the order in which it is resolved. -/
def docMentions (p : Profile) (op : Operation) : List Mention :=
  match op.parameters with
  | [] => returnMentions p op.returnType ++ [⟨.plain, p.faultType⟩]
  | [x] =>
    [⟨.plain, p.requestInterface⟩, ⟨.withParent, x.type⟩] ++ returnMentions p op.returnType
      ++ [⟨.plain, p.faultType⟩]
  | xs =>
    xs.map (fun x => ⟨.withParent, x.type⟩) ++ [⟨.plain, p.multiArgumentType⟩]
      ++ returnMentions p op.returnType

/-- The documentation of a member, written with given short names. -/
def writtenDocBlock (p : Profile) (op : Operation) (short : Mention → String) : DocBlock :=
  match op.parameters with
  | [] => { tags := [writtenReturnTag p op.returnType short, writtenThrowsTag p short] }
  | [x] => { tags := [
      ⟨"param", short ⟨.plain, p.requestInterface⟩ ++ "|" ++ short ⟨.withParent, x.type⟩ ++ " "
        ++ x.name⟩,
      writtenReturnTag p op.returnType short, writtenThrowsTag p short] }
  | xs => {
      details := some (Text.joinLines (packedHeading :: "" :: xs.map (writtenParameterLine short)))
      tags := [⟨"param", short ⟨.plain, p.multiArgumentType⟩⟩,
        writtenReturnTag p op.returnType short] }

theorem returnTag_resolves (p : Profile) (returnType : String) :
    (returnTag p returnType).Resolves (returnMentions p returnType)
      (writtenReturnTag p returnType) :=
  .bind (.resolve _ _) fun _ => .bind (.resolve _ _) fun _ => .pure _

theorem throwsTag_resolves (p : Profile) :
    (throwsTag p).Resolves [⟨.plain, p.faultType⟩] (writtenThrowsTag p) :=
  .bind (.resolve _ _) fun _ => .pure _

theorem parameterLines_resolves (xs : List Parameter) :
    (parameterLines xs).Resolves (xs.map fun x => ⟨.withParent, x.type⟩)
      fun short => xs.map (writtenParameterLine short) := by
  induction xs with
  | nil => exact .pure _
  | cons x xs ih =>
    have h := Edit.Resolves.bind (.resolve .withParent x.type) fun short =>
      ih.bind fun lines => .pure ((short ++ " " ++ x.name) :: lines)
    rwa [List.append_nil] at h

theorem bareDocBlock_resolves (p : Profile) (returnType : String) :
    (bareDocBlock p returnType).Resolves
      (returnMentions p returnType ++ [⟨.plain, p.faultType⟩])
      fun short => { tags := [writtenReturnTag p returnType short, writtenThrowsTag p short] } :=
  .bind (returnTag_resolves p _) fun _ => .bind (throwsTag_resolves p) fun _ => .pure _

theorem singleDocBlock_resolves (p : Profile) (x : Parameter) (returnType : String) :
    (singleDocBlock p x returnType).Resolves
      ([⟨.plain, p.requestInterface⟩, ⟨.withParent, x.type⟩] ++ returnMentions p returnType
        ++ [⟨.plain, p.faultType⟩])
      fun short => { tags := [
        ⟨"param", short ⟨.plain, p.requestInterface⟩ ++ "|" ++ short ⟨.withParent, x.type⟩ ++ " "
          ++ x.name⟩,
        writtenReturnTag p returnType short, writtenThrowsTag p short] } :=
  .bind (.resolve _ _) fun _ => .bind (.resolve _ _) fun _ =>
    .bind (returnTag_resolves p _) fun _ => .bind (throwsTag_resolves p) fun _ => .pure _

theorem packedDocBlock_resolves (p : Profile) (xs : List Parameter) (returnType : String) :
    (packedDocBlock p xs returnType).Resolves
      (xs.map (fun x => ⟨.withParent, x.type⟩) ++ [⟨.plain, p.multiArgumentType⟩]
        ++ returnMentions p returnType)
      fun short => {
        details := some (Text.joinLines (packedHeading :: "" :: xs.map (writtenParameterLine short)))
        tags := [⟨"param", short ⟨.plain, p.multiArgumentType⟩⟩,
          writtenReturnTag p returnType short] } := by
  have h := Edit.Resolves.bind (parameterLines_resolves xs) fun lines =>
    .bind (.resolve .plain p.multiArgumentType) fun packed =>
      .bind (returnTag_resolves p returnType) fun returned =>
        .pure (show DocBlock from {
          details := some (Text.joinLines (packedHeading :: "" :: lines))
          tags := [⟨"param", packed⟩, returned] })
  rwa [List.append_nil, ← List.append_assoc] at h

theorem docBlock_resolves (p : Profile) (op : Operation) :
    (docBlock p op).Resolves (docMentions p op) (writtenDocBlock p op) := by
  unfold docBlock docMentions writtenDocBlock
  cases op.parameters with
  | nil => exact bareDocBlock_resolves p op.returnType
  | cons x xs =>
    cases xs with
    | nil => exact singleDocBlock_resolves p x op.returnType
    | cons y ys => exact packedDocBlock_resolves p (x :: y :: ys) op.returnType

/-- What is wrong with the parameters of an operation. Several of them are only documented, so that
their names do not count. -/
def argumentFault? (op : Operation) : Option Fault :=
  match op.parameters with
  | [x] =>
    if isParameterName x.name then Mention.firstFault? [⟨.withParent, x.type⟩]
    else some (.invalidParameterName x.name)
  | _ => none

def argumentList (p : Profile) (op : Operation) : List Argument :=
  match op.parameters with
  | [] => []
  | [x] => [⟨x.name, x.type⟩]
  | _ => [⟨p.multiArgumentName, p.multiArgumentType⟩]

theorem arguments_eq (p : Profile) (op : Operation) :
    arguments p op =
      match argumentFault? op with
      | none => .ok (argumentList p op)
      | some f => .error f := by
  rw [arguments, argumentFault?, argumentList]
  cases op.parameters with
  | nil => rfl
  | cons x xs =>
    cases xs with
    | cons y ys => rfl
    | nil =>
      cases hn : isParameterName x.name with
      | false => simp only [hn, Bool.false_eq_true, if_false]
      | true =>
        simp only [hn, if_true]
        cases ht : TypeName.isWellFormed x.type with
        | true =>
          rw [TypeName.parse_of_wellFormed ht, Mention.firstFault?_of_wellFormed ht]
          rfl
        | false =>
          rw [TypeName.parse_of_malformed ht, Mention.firstFault?_of_malformed ht]
          rfl

/-- All that assembling a member mentions, in the order in which it is resolved. -/
def mentions (p : Profile) (op : Operation) : List Mention :=
  ⟨.plain, p.clientBase⟩ :: docMentions p op

/-- The first thing that is wrong with an operation, or with what the profile adds to it. -/
def fault? (p : Profile) (op : Operation) : Option Fault :=
  (Mention.firstFault? [⟨.plain, p.clientBase⟩]).or
    ((argumentFault? op).or (Mention.firstFault? (docMentions p op)))

/-- The member for an operation in a class of the namespace `home`. -/
def memberOf (home : String) (p : Profile) (op : Operation) : Member where
  name := nameOf p op
  body := body p op
  returnType := op.returnType
  arguments := argumentList p op
  docBlock := some (writtenDocBlock p op (Mention.short home))

theorem memberOf_calls (home : String) (p : Profile) (op : Operation) :
    (memberOf home p op).Calls p.transportMethod := by
  change ∃ rest, body p op = _
  rw [body]
  cases argumentName? p op with
  | none =>
    refine ⟨Text.quoted op.wireName ++ ")", ?_⟩
    simp only [String.append_assoc]
  | some name =>
    refine ⟨Text.quoted op.wireName ++ ", " ++ name ++ ")", ?_⟩
    simp only [String.append_assoc]

def installed (p : Profile) (op : Operation) (m : ClassModel) : ClassModel :=
  (((m.setBase p.clientBase).removeMember (nameOf p op)).addMember (memberOf m.home p op)).referAll
    (mentions p op)

theorem install_of_fault {p : Profile} {op : Operation} {f : Fault} (h : fault? p op = some f)
    (m : ClassModel) : ∃ m', install p op m = (.error f, m') := by
  have hbase := Edit.Resolves.resolve .plain p.clientBase
  rw [install, Edit.update_bind]
  cases hb : Mention.firstFault? [⟨.plain, p.clientBase⟩] with
  | some e =>
    rw [fault?, hb, Option.some_or, Option.some.injEq] at h
    rw [Edit.bind_of_error (Edit.discard_of_error (hbase.run_error hb _)), h]
    exact ⟨_, rfl⟩
  | none =>
    rw [fault?, hb, Option.none_or] at h
    rw [Edit.bind_of_ok (Edit.discard_of_ok (hbase.run_ok hb _)), Edit.update_bind]
    have hargs := arguments_eq p op
    cases ha : argumentFault? op with
    | some e =>
      rw [ha] at hargs
      rw [ha, Option.some_or, Option.some.injEq] at h
      rw [Edit.ofExcept_bind_error hargs, h]
      exact ⟨_, rfl⟩
    | none =>
      rw [ha] at hargs
      rw [ha, Option.none_or] at h
      rw [Edit.ofExcept_bind_ok hargs, Edit.bind_of_error ((docBlock_resolves p op).run_error h _)]
      exact ⟨_, rfl⟩

theorem install_of_faultless {p : Profile} {op : Operation} (h : fault? p op = none)
    (m : ClassModel) : install p op m = (.ok (), installed p op m) := by
  rw [fault?, Option.or_eq_none_iff, Option.or_eq_none_iff] at h
  obtain ⟨hb, ha, hd⟩ := h
  have hbase := Edit.Resolves.resolve .plain p.clientBase
  have hargs := arguments_eq p op
  rw [ha] at hargs
  rw [install, Edit.update_bind, Edit.bind_of_ok (Edit.discard_of_ok (hbase.run_ok hb _)),
    Edit.update_bind, Edit.ofExcept_bind_ok hargs,
    Edit.bind_of_ok ((docBlock_resolves p op).run_ok hd _)]
  have hm : mentions p op = [⟨.plain, p.clientBase⟩] ++ docMentions p op := rfl
  rw [installed, hm, ClassModel.referAll_append]
  rfl

theorem install_keepsPlace (p : Profile) (op : Operation) : (install p op).KeepsPlace := by
  refine .bind (.update fun _ => ⟨rfl, rfl⟩) fun _ => ?_
  refine .bind (.discard (Edit.Resolves.resolve _ _).keepsPlace) fun _ => ?_
  refine .bind (.update fun _ => ⟨rfl, rfl⟩) fun _ => ?_
  refine .bind (.ofExcept _) fun arguments => ?_
  refine .bind (docBlock_resolves p op).keepsPlace fun docBlock => ?_
  exact .update fun _ => ⟨rfl, rfl⟩

end Assembly

theorem assemble_of_fault {p : Profile} {op : Operation} {f : Fault}
    (h : Assembly.fault? p op = some f) (m : ClassModel) :
    assemble p op m = (.error (.member op.wireName f), m) := by
  obtain ⟨m', hm⟩ := Assembly.install_of_fault h m
  exact Edit.mapError_of_error (Edit.transaction_of_error (Assembly.install_keepsPlace p op) hm)

theorem assemble_of_faultless {p : Profile} {op : Operation} (h : Assembly.fault? p op = none)
    (m : ClassModel) : assemble p op m = (.ok (), Assembly.installed p op m) :=
  Edit.mapError_of_ok (Edit.transaction_of_ok (Assembly.install_of_faultless h m))

/-- Assembling fails or goes through whatever the class holds, and edits the class only in the
second case. -/
theorem assemble_run (p : Profile) (op : Operation) (m : ClassModel) :
    assemble p op m =
      match Assembly.fault? p op with
      | some f => (.error (.member op.wireName f), m)
      | none => (.ok (), Assembly.installed p op m) := by
  cases h : Assembly.fault? p op with
  | some f => exact assemble_of_fault h m
  | none => exact assemble_of_faultless h m

theorem assemble_eq_error_iff {p : Profile} {op : Operation} {m m' : ClassModel}
    {e : AssemblyError} :
    assemble p op m = (.error e, m') ↔
      m' = m ∧ ∃ f, Assembly.fault? p op = some f ∧ e = .member op.wireName f := by
  rw [assemble_run]
  cases Assembly.fault? p op with
  | none =>
    constructor
    · intro h
      cases h
    · rintro ⟨-, f, hf, -⟩
      cases hf
  | some f =>
    constructor
    · intro h
      cases h
      exact ⟨rfl, f, rfl, rfl⟩
    · rintro ⟨rfl, f', hf, rfl⟩
      cases hf
      rfl

end ClientGen
