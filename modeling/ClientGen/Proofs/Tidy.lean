import ClientGen.Proofs.Generation
import ClientGen.Proofs.MemberName
import ClientGen.Proofs.Spelling

namespace ClientGen
open Text

/-- Whether all that stands in one line of a documentation has no line break. The details may have
any. -/
structure DocBlock.IsTidy (d : DocBlock) : Prop where
  summary : ∀ s, d.summary = some s → IsLine s
  tags : ∀ t ∈ d.tags, IsLine t.name ∧ IsLine t.description

/-- Whether a member is written in whole lines: its head, a documentation, and one line of code. -/
structure Member.IsTidy (member : Member) : Prop where
  name : IsLine member.name
  argumentNames : ∀ a ∈ member.arguments, IsLine a.name
  documented : ∃ d, member.docBlock = some d ∧ d.IsTidy
  body : IsLine member.body
  body_ends : EndsVisibly member.body

structure ClassModel.IsTidy (m : ClassModel) : Prop where
  name : IsLine m.name
  members : ∀ member ∈ m.members.toList, member.IsTidy
  imports : ∀ name ∈ m.imports.names, IsLine name

namespace Assembly

theorem isLine_short_of_mem {p : Profile} {op : Operation} (h : fault? p op = none)
    (home : String) : ∀ r ∈ docMentions p op, IsLine (r.short home) := by
  intro r hr
  have hw : r.isWellFormed = true := isWellFormed_of_mem h (List.mem_cons_of_mem _ hr)
  exact (Mention.isDotted_short hw home).isLine

theorem isIdentifier_of_isParameterName {name : String} (h : isParameterName name = true) :
    isIdentifier name = true :=
  (isParameterName_iff.1 h).1

theorem isParameterName_of_single {p : Profile} {op : Operation} (h : fault? p op = none)
    {x : Parameter} (hx : op.parameters = [x]) : isParameterName x.name = true := by
  rw [fault?, Option.or_eq_none_iff, Option.or_eq_none_iff] at h
  have ha := h.2.1
  simp only [argumentFault?, hx] at ha
  split at ha
  · assumption
  · cases ha

theorem isIdentifier_of_single {p : Profile} {op : Operation} (h : fault? p op = none)
    {x : Parameter} (hx : op.parameters = [x]) : isIdentifier x.name = true :=
  isIdentifier_of_isParameterName (isParameterName_of_single h hx)

theorem isParameterName_argumentName? {p : Profile} {op : Operation} (h : fault? p op = none)
    {name : String} (hn : argumentName? p op = some name) : isParameterName name = true := by
  rw [argumentName?] at hn
  split at hn
  · cases hn
  · next x hx =>
    cases hn
    exact isParameterName_of_single h hx
  · cases hn
    exact p.multiArgumentName_ok

theorem isIdentifier_argumentName? {p : Profile} {op : Operation} (h : fault? p op = none)
    {name : String} (hn : argumentName? p op = some name) : isIdentifier name = true :=
  isIdentifier_of_isParameterName (isParameterName_argumentName? h hn)

theorem argumentName?_of_mem {p : Profile} {op : Operation} {a : Argument}
    (ha : a ∈ argumentList p op) : argumentName? p op = some a.name := by
  rw [argumentList] at ha
  rw [argumentName?]
  cases hx : op.parameters with
  | nil =>
    rw [hx] at ha
    cases ha
  | cons x xs =>
    rw [hx] at ha
    cases xs with
    | nil =>
      cases List.mem_singleton.1 ha
      rfl
    | cons y ys =>
      cases List.mem_singleton.1 ha
      rfl

theorem isLine_body {p : Profile} {op : Operation} (h : fault? p op = none) :
    IsLine (body p op) := by
  have ht : IsLine p.transportMethod := isLine_of_isIdentifier p.transportMethod_ok
  have hcall := (((show IsLine "return self." by decide).append ht).append
    (show IsLine "(" by decide)).append (isLine_quoted op.wireName)
  rw [body]
  split
  · exact hcall.append (by decide)
  · next name hn =>
    have hname := isLine_of_isIdentifier (isIdentifier_argumentName? h hn)
    exact ((hcall.append (by decide)).append hname).append (by decide)

theorem body_endsVisibly (p : Profile) (op : Operation) : EndsVisibly (body p op) := by
  have hclose : EndsVisibly ")" := ⟨[], ')', rfl, by decide⟩
  rw [body]
  split
  · exact hclose.append _
  · exact hclose.append _

theorem isLine_returnTag {p : Profile} {returnType : String} {short : Mention → String}
    (h : ∀ r ∈ returnMentions p returnType, IsLine (short r)) :
    IsLine (writtenReturnTag p returnType short).description := by
  have hresult := h ⟨.plain, p.resultInterface⟩ List.mem_cons_self
  have hreturned := h ⟨.withParent, returnType⟩ (List.mem_cons_of_mem _ List.mem_cons_self)
  exact (hresult.append (by decide)).append hreturned

/-- The parameters of a packed request are named in the details alone. -/
theorem writtenDocBlock_tidy {p : Profile} {op : Operation} (h : fault? p op = none)
    (home : String) : (writtenDocBlock p op (Mention.short home)).IsTidy := by
  have hs := isLine_short_of_mem h home
  have hparam : IsLine "param" := by decide
  have hreturn : IsLine "return" := by decide
  have hthrows : IsLine "throws" := by decide
  unfold docMentions at hs
  unfold writtenDocBlock
  cases hx : op.parameters with
  | nil =>
    rw [hx] at hs
    refine ⟨fun _ he => (nomatch he), fun t ht => ?_⟩
    rcases List.mem_cons.1 ht with rfl | ht
    · exact ⟨hreturn, isLine_returnTag fun r hr => hs r (List.mem_append_left _ hr)⟩
    · cases List.mem_singleton.1 ht
      exact ⟨hthrows, hs _ (List.mem_append_right _ List.mem_cons_self)⟩
  | cons x xs =>
    rw [hx] at hs
    cases xs with
    | nil =>
      have hx := isLine_of_isIdentifier (isIdentifier_of_single h hx)
      refine ⟨fun _ he => (nomatch he), fun t ht => ?_⟩
      rcases List.mem_cons.1 ht with rfl | ht
      · have hwrapper := hs ⟨.plain, p.requestInterface⟩ (by simp)
        have htype := hs ⟨.withParent, x.type⟩ (by simp)
        exact ⟨hparam,
          (((hwrapper.append (by decide)).append htype).append (by decide)).append hx⟩
      · rcases List.mem_cons.1 ht with rfl | ht
        · exact ⟨hreturn, isLine_returnTag fun r hr => hs r (by simp [hr])⟩
        · cases List.mem_singleton.1 ht
          exact ⟨hthrows, hs _ (by simp)⟩
    | cons y ys =>
      refine ⟨fun _ he => (nomatch he), fun t ht => ?_⟩
      rcases List.mem_cons.1 ht with rfl | ht
      · exact ⟨hparam, hs ⟨.plain, p.multiArgumentType⟩ (by simp)⟩
      · cases List.mem_singleton.1 ht
        exact ⟨hreturn, isLine_returnTag fun r hr => hs r (by simp [hr])⟩

theorem memberOf_tidy {p : Profile} {op : Operation} (h : fault? p op = none) (home : String) :
    (memberOf home p op).IsTidy where
  name := isLine_of_isIdentifier (MemberName.isIdentifier_memberName _ _ _)
  argumentNames _ ha :=
    isLine_of_isIdentifier (isIdentifier_argumentName? h (argumentName?_of_mem ha))
  documented := ⟨_, rfl, writtenDocBlock_tidy h home⟩
  body := isLine_body h
  body_ends := body_endsVisibly p op

theorem installed_tidy {p : Profile} {op : Operation} (h : fault? p op = none) {m : ClassModel}
    (hm : m.IsTidy) : (installed p op m).IsTidy where
  name := hm.name
  members := forall_mem_installed hm.members (memberOf_tidy h m.home)
  imports := ClassModel.isLine_of_mem_referAll hm.imports fun _ hr => isWellFormed_of_mem h hr

end Assembly

theorem emptyClass_tidy (s : Service) : s.emptyClass.IsTidy where
  name := isLine_of_isIdentifier s.className_ok
  members _ hmem := nomatch hmem
  imports _ hname := nomatch hname

theorem tidy_of_generate {p : Profile} {s : Service} {g : Generated} (h : generate p s = .ok g) :
    g.model.IsTidy ∧ g.model.IsEmittable := by
  obtain ⟨hf, hm, -⟩ := eq_of_generate h
  rw [hm]
  constructor
  · exact Assembly.assembled_preserves (fun op hop _ => Assembly.installed_tidy (hf op hop))
      (emptyClass_tidy s)
  · exact Assembly.assembled_emittable hf (emptyClass_emittable s)

end ClientGen
