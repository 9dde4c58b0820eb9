import ClientGen.Client
import ClientGen.Proofs.Assembly
import ClientGen.Proofs.Emission
import ClientGen.Proofs.Profile
import Mathlib.Data.List.Dedup

namespace ClientGen

namespace Members

theorem eq_of_toList {ms ms' : Members} (h : ms.toList = ms'.toList) : ms = ms' := by
  cases ms
  cases h
  rfl

theorem toList_put_erase (ms : Members) (member : Member) :
    ((ms.erase member.name).put member).toList =
      ms.toList.filter (fun x => x.name != member.name) ++ [member] := by
  have h : ¬(ms.erase member.name).has member.name = true := by
    simp [has, erase]
  rw [put, dif_neg h]
  rfl

theorem find?_of_mem {ms : Members} {member : Member} (h : member ∈ ms.toList) :
    ms.find? member.name = some member := by
  obtain ⟨xs, hd⟩ := ms
  change member ∈ xs at h
  change xs.find? (fun x => x.name == member.name) = some member
  induction xs with
  | nil => cases h
  | cons x xs ih =>
    rw [List.map_cons, List.nodup_cons] at hd
    rcases List.mem_cons.1 h with rfl | hx
    · simp only [List.find?_cons, beq_self_eq_true]
    · have hne : (x.name == member.name) = false := by
        rw [beq_eq_false_iff_ne]
        intro he
        exact hd.1 (List.mem_map.2 ⟨member, hx, he.symm⟩)
      rw [List.find?_cons, hne]
      exact ih hd.2 hx

theorem find?_eq_some_iff {ms : Members} {name : String} {member : Member} :
    ms.find? name = some member ↔ member ∈ ms.toList ∧ member.name = name := by
  constructor
  · intro h
    have hb := List.find?_some (p := fun x : Member => x.name == name) h
    exact ⟨List.mem_of_find?_eq_some h, eq_of_beq hb⟩
  · rintro ⟨hm, rfl⟩
    exact find?_of_mem hm

end Members

namespace Assembly

theorem installed_toList (p : Profile) (op : Operation) (m : ClassModel) :
    (installed p op m).members.toList =
      m.members.toList.filter (fun x => x.name != nameOf p op) ++ [memberOf m.home p op] :=
  m.members.toList_put_erase (memberOf m.home p op)

theorem isWellFormed_of_mem {p : Profile} {op : Operation} (h : fault? p op = none)
    {form : TypeName.Form} {name : String} (hr : ⟨form, name⟩ ∈ mentions p op) :
    TypeName.isWellFormed name = true := by
  rw [fault?, Option.or_eq_none_iff, Option.or_eq_none_iff] at h
  have hw : (⟨form, name⟩ : Mention).isWellFormed = true := by
    rcases List.mem_cons.1 hr with he | hr
    · exact Mention.firstFault?_eq_none_iff.1 h.1 _ (List.mem_singleton.2 he)
    · exact Mention.firstFault?_eq_none_iff.1 h.2.2 _ hr
  exact hw

theorem returnType_mem_mentions (p : Profile) (op : Operation) :
    ⟨.withParent, op.returnType⟩ ∈ mentions p op := by
  rw [mentions, docMentions, returnMentions]
  split <;> simp

theorem argument_mem_mentions {p : Profile} {op : Operation} {a : Argument}
    (h : a ∈ argumentList p op) : ∃ form, ⟨form, a.type⟩ ∈ mentions p op := by
  rw [argumentList] at h
  rw [mentions, docMentions]
  cases hx : op.parameters with
  | nil =>
    rw [hx] at h
    cases h
  | cons x xs =>
    rw [hx] at h
    cases xs with
    | nil =>
      cases List.mem_singleton.1 h
      exact ⟨.withParent, by simp⟩
    | cons y ys =>
      cases List.mem_singleton.1 h
      exact ⟨.plain, by simp⟩

theorem memberOf_emittable {p : Profile} {op : Operation} (h : fault? p op = none)
    (home : String) : (memberOf home p op).IsEmittable where
  returnType := isWellFormed_of_mem h (returnType_mem_mentions p op)
  arguments a ha := by
    obtain ⟨form, hr⟩ := argument_mem_mentions ha
    exact isWellFormed_of_mem h hr
  unwrapped d hd := by
    cases hd
    rw [writtenDocBlock]
    split <;> rfl

theorem forall_mem_installed {q : Member → Prop} {p : Profile} {op : Operation} {m : ClassModel}
    (hm : ∀ member ∈ m.members.toList, q member) (ho : q (memberOf m.home p op)) :
    ∀ member ∈ (installed p op m).members.toList, q member := by
  intro member hmem
  rw [installed_toList, List.mem_append, List.mem_singleton] at hmem
  rcases hmem with hold | rfl
  · exact hm member (List.mem_filter.1 hold).1
  · exact ho

theorem installed_emittable {p : Profile} {op : Operation} (h : fault? p op = none)
    {m : ClassModel} (hm : m.IsEmittable) : (installed p op m).IsEmittable where
  base b hb := by
    cases hb
    exact isWellFormed_of_mem h List.mem_cons_self
  members := forall_mem_installed hm.members (memberOf_emittable h m.home)

/-- A class on which operations have been installed one after the other. -/
def assembled (p : Profile) (ops : List Operation) (m : ClassModel) : ClassModel :=
  ops.foldl (fun m op => installed p op m) m

theorem assembled_preserves {holds : ClassModel → Prop} {p : Profile} {ops : List Operation}
    (h : ∀ op ∈ ops, ∀ m, holds m → holds (installed p op m)) {m : ClassModel} (hm : holds m) :
    holds (assembled p ops m) := by
  induction ops generalizing m with
  | nil => exact hm
  | cons op ops ih =>
    apply ih fun o ho => h o (List.mem_cons_of_mem op ho)
    exact h op List.mem_cons_self m hm

theorem assembled_emittable {p : Profile} {ops : List Operation}
    (h : ∀ op ∈ ops, fault? p op = none) {m : ClassModel} (hm : m.IsEmittable) :
    (assembled p ops m).IsEmittable :=
  assembled_preserves (fun op hop _ => installed_emittable (h op hop)) hm

theorem assembled_base (p : Profile) (ops : List Operation) (m : ClassModel) :
    (assembled p ops m).base = if ops = [] then m.base else some p.clientBase := by
  induction ops generalizing m with
  | nil => rfl
  | cons op ops ih =>
    refine (ih (installed p op m)).trans ?_
    rw [if_neg (List.cons_ne_nil op ops)]
    exact ite_self _

theorem assembled_samePlace (p : Profile) (ops : List Operation) (m : ClassModel) :
    (assembled p ops m).name = m.name ∧ (assembled p ops m).home = m.home := by
  induction ops generalizing m with
  | nil => exact ⟨rfl, rfl⟩
  | cons op ops ih => exact ih (installed p op m)

/-- The operations that no later one of the same member name follows. -/
def lastNamed (p : Profile) : List Operation → List Operation
  | [] => []
  | op :: ops =>
    if nameOf p op ∈ ops.map (nameOf p) then lastNamed p ops else op :: lastNamed p ops

theorem map_nameOf_lastNamed (p : Profile) (ops : List Operation) :
    (lastNamed p ops).map (nameOf p) = (ops.map (nameOf p)).dedup := by
  induction ops with
  | nil => rfl
  | cons op ops ih =>
    rw [lastNamed, List.map_cons]
    split
    · next h => rw [ih, List.dedup_cons_of_mem h]
    · next h => rw [List.map_cons, ih, List.dedup_cons_of_notMem h]

theorem lastNamed_sublist (p : Profile) (ops : List Operation) :
    (lastNamed p ops).Sublist ops := by
  induction ops with
  | nil => exact List.Sublist.slnil
  | cons op ops ih =>
    rw [lastNamed]
    split
    · exact ih.cons op
    · exact ih.cons_cons op

theorem lastNamed_of_nodup {p : Profile} {ops : List Operation}
    (h : (ops.map (nameOf p)).Nodup) : lastNamed p ops = ops := by
  induction ops with
  | nil => rfl
  | cons op ops ih =>
    obtain ⟨hop, hops⟩ := List.nodup_cons.1 h
    rw [lastNamed, if_neg hop, ih hops]

/-- Members of the class that no operation names stay in front. -/
theorem assembled_toList (p : Profile) (ops : List Operation) (m : ClassModel) :
    (assembled p ops m).members.toList =
      m.members.toList.filter (fun x => x.name ∉ ops.map (nameOf p)) ++
        (lastNamed p ops).map (memberOf m.home p) := by
  induction ops generalizing m with
  | nil => simp [assembled, lastNamed]
  | cons op ops ih =>
    -- the member of `op` stays only if no later operation takes its name away
    refine (ih (installed p op m)).trans ?_
    have hh : (installed p op m).home = m.home := rfl
    rw [installed_toList, hh, List.filter_append, List.filter_filter, List.append_assoc]
    congr 1
    · apply List.filter_congr
      intro x hx
      rw [List.map_cons, Bool.eq_iff_iff]
      simp only [Bool.and_eq_true, decide_eq_true_eq, bne_iff_ne, List.mem_cons, not_or, and_comm]
    · have hn : (memberOf m.home p op).name = nameOf p op := rfl
      rw [lastNamed, List.filter_singleton, hn]
      by_cases h : nameOf p op ∈ ops.map (nameOf p)
      · simp only [h, not_true_eq_false, decide_false, if_true]
        rfl
      · simp only [h, not_false_eq_true, decide_true, if_false]
        rfl

end Assembly

open Assembly

theorem dispatch_members (p : Profile) (op : Operation) (m : ClassModel) :
    dispatch [.members p] (.operation op) m =
      match fault? p op with
      | some f => (.error (.member op.wireName f), m)
      | none => (.ok none, installed p op m) := by
  have hd : dispatch [.members p] (.operation op) = assemble p op >>= fun _ => pure none := rfl
  rw [hd]
  cases h : fault? p op with
  | some f => exact Edit.bind_of_error (assemble_of_fault h m)
  | none => exact Edit.bind_of_ok (assemble_of_faultless h m)

theorem dispatchAll_of_faultless {p : Profile} {ops : List Operation}
    (h : ∀ op ∈ ops, fault? p op = none) (m : ClassModel) :
    dispatchAll [.members p] ops m = (.ok [], assembled p ops m) := by
  induction ops generalizing m with
  | nil => rfl
  | cons op ops ih =>
    have hd := dispatch_members p op m
    rw [h op List.mem_cons_self] at hd
    have hrest := ih (fun o ho => h o (List.mem_cons_of_mem op ho)) (installed p op m)
    rw [dispatchAll, Edit.bind_of_ok hd, Edit.bind_of_ok hrest]
    rfl

def failure? (p : Profile) (ops : List Operation) : Option AssemblyError :=
  ops.findSome? fun op => (fault? p op).map (.member op.wireName)

theorem dispatchAll_of_failure {p : Profile} {ops : List Operation} {e : AssemblyError}
    (h : failure? p ops = some e) (m : ClassModel) :
    (dispatchAll [.members p] ops m).1 = .error e := by
  induction ops generalizing m with
  | nil => cases h
  | cons op ops ih =>
    have hd := dispatch_members p op m
    rw [failure?, List.findSome?_cons] at h
    rw [dispatchAll]
    cases hf : fault? p op with
    | some f =>
      rw [hf] at h hd
      rw [Edit.bind_of_error hd]
      exact congrArg Except.error (Option.some.inj h)
    | none =>
      rw [hf] at h hd
      rw [Edit.bind_of_ok hd]
      have hrest := ih h (installed p op m)
      cases hr : dispatchAll [.members p] ops (installed p op m) with
      | mk x m' =>
        rw [hr] at hrest
        cases hrest
        rw [Edit.bind_of_error hr]

theorem failure?_eq_none_iff {p : Profile} {ops : List Operation} :
    failure? p ops = none ↔ ∀ op ∈ ops, fault? p op = none := by
  simp only [failure?, List.findSome?_eq_none_iff, Option.map_eq_none_iff]

theorem emptyClass_emittable (s : Service) : s.emptyClass.IsEmittable where
  base _ hb := nomatch hb
  members _ hmem := nomatch hmem

theorem generate_of_failure {p : Profile} {s : Service} {e : AssemblyError}
    (h : failure? p s.operations = some e) : generate p s = .error (.assembly e) := by
  have hd := dispatchAll_of_failure h s.emptyClass
  rw [generate, generateWith]
  cases hr : dispatchAll [.members p] s.operations s.emptyClass with
  | mk x m =>
    rw [hr] at hd
    cases hd
    rfl

theorem generate_of_faultless {p : Profile} {s : Service}
    (h : failure? p s.operations = none) :
    generate p s = .ok {
      model := assembled p s.operations s.emptyClass
      code := Source.emitted p.futureAnnotations (assembled p s.operations s.emptyClass) } := by
  have hf := failure?_eq_none_iff.1 h
  have he := assembled_emittable hf (emptyClass_emittable s)
  rw [generate, generateWith]
  rw [dispatchAll_of_faultless hf]
  simp only [render, Source.render_of_emittable _ he]
  rfl

/-- A client that is generated is the assembled class and its text. -/
theorem eq_of_generate {p : Profile} {s : Service} {g : Generated} (h : generate p s = .ok g) :
    (∀ op ∈ s.operations, fault? p op = none) ∧
      g.model = assembled p s.operations s.emptyClass ∧
        g.code = Source.emitted p.futureAnnotations g.model := by
  cases hf : failure? p s.operations with
  | some e =>
    rw [generate_of_failure hf] at h
    cases h
  | none =>
    rw [generate_of_faultless hf] at h
    cases h
    exact ⟨failure?_eq_none_iff.1 hf, rfl, rfl⟩

theorem place_of_generate {p : Profile} {s : Service} {g : Generated} (h : generate p s = .ok g) :
    g.model.name = s.className ∧ g.model.home = s.home := by
  rw [(eq_of_generate h).2.1]
  exact assembled_samePlace p s.operations s.emptyClass

theorem base_of_generate {p : Profile} {s : Service} {g : Generated} (h : generate p s = .ok g) :
    g.model.base = if s.operations = [] then none else some p.clientBase := by
  rw [(eq_of_generate h).2.1]
  exact assembled_base p s.operations s.emptyClass

theorem emittable_of_generate {p : Profile} {s : Service} {g : Generated}
    (h : generate p s = .ok g) : g.model.IsEmittable := by
  obtain ⟨hf, hm, -⟩ := eq_of_generate h
  rw [hm]
  exact assembled_emittable hf (emptyClass_emittable s)

theorem exists_generate_iff {p : Profile} {s : Service} :
    (∃ g, generate p s = .ok g) ↔ ∀ op ∈ s.operations, fault? p op = none := by
  constructor
  · rintro ⟨g, hg⟩
    exact (eq_of_generate hg).1
  · intro h
    exact ⟨_, generate_of_faultless (failure?_eq_none_iff.2 h)⟩

theorem members_of_generate {p : Profile} {s : Service} {g : Generated}
    (h : generate p s = .ok g) :
    g.model.members.toList = (lastNamed p s.operations).map (memberOf s.home p) := by
  rw [(eq_of_generate h).2.1]
  exact assembled_toList p s.operations s.emptyClass

theorem names_of_generate {p : Profile} {s : Service} {g : Generated}
    (h : generate p s = .ok g) :
    g.model.members.toList.map Member.name = (s.operations.map (nameOf p)).dedup := by
  rw [members_of_generate h, List.map_map]
  exact map_nameOf_lastNamed p s.operations

theorem emptyClass_installed (p : Profile) (s : Service) (op : Operation) :
    (installed p op s.emptyClass).members.toList = [memberOf s.home p op] :=
  installed_toList p op s.emptyClass

theorem assemble_alone_ok_iff {p : Profile} {op : Operation} {m : ClassModel} :
    (assemble p op m).1 = .ok () ↔ fault? p op = none := by
  cases h : fault? p op with
  | some f => simp [assemble_of_fault h]
  | none => simp [assemble_of_faultless h]

theorem assemble_alone_error_iff {p : Profile} {op : Operation} {m : ClassModel}
    {e : AssemblyError} :
    (assemble p op m).1 = .error e ↔ (fault? p op).map (.member op.wireName) = some e := by
  cases h : fault? p op with
  | some f => simp [assemble_of_fault h]
  | none => simp [assemble_of_faultless h]

theorem generate_error_iff {p : Profile} {s : Service} {e : GenerationError} :
    generate p s = .error e ↔ ∃ f, failure? p s.operations = some f ∧ e = .assembly f := by
  cases h : failure? p s.operations with
  | some f => simp [generate_of_failure h, eq_comm]
  | none => simp [generate_of_faultless h]

theorem mem_lastNamed {p : Profile} {op : Operation} {before after : List Operation}
    (h : ∀ o ∈ after, nameOf p o ≠ nameOf p op) :
    op ∈ lastNamed p (before ++ op :: after) := by
  induction before with
  | nil =>
    have hn : nameOf p op ∉ after.map (nameOf p) := by
      intro hm
      obtain ⟨o, ho, he⟩ := List.mem_map.1 hm
      exact h o ho he
    rw [List.nil_append, lastNamed, if_neg hn]
    exact List.mem_cons_self
  | cons o before ih =>
    rw [List.cons_append, lastNamed]
    split
    · exact ih
    · exact List.mem_cons_of_mem o ih

/-- The operations that are left are those that no later one shares its member name with. -/
theorem mem_lastNamed_iff {p : Profile} {op : Operation} {ops : List Operation} :
    op ∈ lastNamed p ops ↔
      ∃ before after, ops = before ++ op :: after ∧ ∀ o ∈ after, nameOf p o ≠ nameOf p op := by
  constructor
  · intro h
    induction ops with
    | nil => cases h
    | cons o ops ih =>
      have hlater : op ∈ lastNamed p ops → ∃ before after, o :: ops = before ++ op :: after ∧
          ∀ o ∈ after, nameOf p o ≠ nameOf p op := by
        intro hop
        obtain ⟨before, after, rfl, hafter⟩ := ih hop
        exact ⟨o :: before, after, rfl, hafter⟩
      rw [lastNamed] at h
      split at h
      · exact hlater h
      · next ho =>
        rcases List.mem_cons.1 h with rfl | h
        · exact ⟨[], ops, rfl, fun o hm he => ho (he ▸ List.mem_map_of_mem hm)⟩
        · exact hlater h
  · rintro ⟨before, after, rfl, hafter⟩
    exact mem_lastNamed hafter

theorem generate_fails_iff {p : Profile} {s : Service} :
    (∃ e, generate p s = .error e) ↔
      ∃ op ∈ s.operations, ∃ f, (assemble p op s.emptyClass).1 = .error f := by
  simp only [generate_error_iff, assemble_alone_error_iff]
  constructor
  · rintro ⟨_, f, hf, rfl⟩
    obtain ⟨op, hop, ho⟩ := List.exists_of_findSome?_eq_some hf
    exact ⟨op, hop, f, ho⟩
  · rintro ⟨op, hop, f, ho⟩
    cases hf : failure? p s.operations with
    | some f' => exact ⟨_, f', rfl, rfl⟩
    | none =>
      rw [failure?_eq_none_iff.1 hf op hop] at ho
      cases ho

theorem generate_error_iff_first {p : Profile} {s : Service} {e : GenerationError} :
    generate p s = .error e ↔
      ∃ before op after f, s.operations = before ++ op :: after ∧
        (∀ o ∈ before, (assemble p o s.emptyClass).1 = .ok ()) ∧
        (assemble p op s.emptyClass).1 = .error f ∧ e = .assembly f := by
  rw [generate_error_iff, failure?]
  constructor
  · rintro ⟨f, hf, rfl⟩
    obtain ⟨before, op, after, ho, hop, hbefore⟩ := List.findSome?_eq_some_iff.1 hf
    refine ⟨before, op, after, f, ho, fun o hm => ?_, assemble_alone_error_iff.2 hop, rfl⟩
    exact assemble_alone_ok_iff.2 (Option.map_eq_none_iff.1 (hbefore o hm))
  · rintro ⟨before, op, after, f, ho, hbefore, hop, rfl⟩
    refine ⟨f, List.findSome?_eq_some_iff.2 ⟨before, op, after, ho, ?_, fun o hm => ?_⟩, rfl⟩
    · exact assemble_alone_error_iff.1 hop
    · rw [assemble_alone_ok_iff.1 (hbefore o hm)]
      rfl

theorem member_alone_of_generate {p : Profile} {s : Service} {g : Generated}
    (h : generate p s = .ok g) {before after : List Operation} {op : Operation}
    (ho : s.operations = before ++ op :: after) (hlast : ∀ o ∈ after, nameOf p o ≠ nameOf p op) :
    ∃ member, (assemble p op s.emptyClass).2.members.toList = [member] ∧
      g.model.members.find? (nameOf p op) = some member := by
  obtain ⟨hf, -, -⟩ := eq_of_generate h
  refine ⟨memberOf s.home p op, ?_, ?_⟩
  · have hop : op ∈ s.operations := ho ▸ List.mem_append_right before List.mem_cons_self
    rw [assemble_of_faultless (hf op hop)]
    exact emptyClass_installed p s op
  · have hmem : memberOf s.home p op ∈ g.model.members.toList := by
      rw [members_of_generate h, ho]
      exact List.mem_map_of_mem (mem_lastNamed hlast)
    exact Members.find?_of_mem hmem

/-- Generation fails if and only if some operation cannot be assembled alone on a class without
members, and with the failure of the first such operation. A client that is generated has the names
of the operations as its members, each once and where it comes last, and under each name the member
that the last operation of the name gives alone. -/
theorem generate_from_alone (p : Profile) (s : Service) :
    ((∃ e, generate p s = .error e) ↔
      ∃ op ∈ s.operations, ∃ f, (assemble p op s.emptyClass).1 = .error f) ∧
    (∀ e, generate p s = .error e ↔
      ∃ before op after f, s.operations = before ++ op :: after ∧
        (∀ o ∈ before, (assemble p o s.emptyClass).1 = .ok ()) ∧
        (assemble p op s.emptyClass).1 = .error f ∧ e = .assembly f) ∧
    ∀ g, generate p s = .ok g →
      g.model.members.toList.map Member.name = (s.operations.map (nameOf p)).dedup ∧
      (∀ name member, g.model.members.find? name = some member → member.name = name) ∧
      (∀ before op after, s.operations = before ++ op :: after →
        (∀ o ∈ after, nameOf p o ≠ nameOf p op) →
        ∃ member, (assemble p op s.emptyClass).2.members.toList = [member] ∧
          g.model.members.find? (nameOf p op) = some member) ∧
      g.model.base = if s.operations = [] then none else some p.clientBase := by
  refine ⟨generate_fails_iff, fun e => generate_error_iff_first, fun g hg => ?_⟩
  refine ⟨names_of_generate hg, ?_, ?_, ?_⟩
  · intro name member hfind
    have hb := List.find?_some (p := fun x : Member => x.name == name) hfind
    exact eq_of_beq hb
  · intro before op after ho hlast
    exact member_alone_of_generate hg ho hlast
  · rw [(eq_of_generate hg).2.1]
    exact assembled_base p s.operations s.emptyClass

def twiceNamed : Service where
  className := "UserClient"
  home := "app.client"
  operations := [
    ⟨{ wireName := "get-user", returnType := "int" }, by decide⟩,
    ⟨{ wireName := "Ping", returnType := "app.types.Pong" }, by decide⟩,
    ⟨{ wireName := "GetUser", returnType := "app.types.User" }, by decide⟩]
  className_ok := by decide

/-- A service with an operation that cannot be assembled behind one that can. -/
def halfBroken : Service where
  className := "UserClient"
  operations := [
    ⟨{ wireName := "Ping", returnType := "int" }, by decide⟩,
    ⟨{ wireName := "Broken", returnType := "not a type" }, by decide⟩]
  className_ok := by decide

theorem generate_twiceNamed_halfBroken :
    (∃ g, generate .standard twiceNamed = .ok g ∧
      g.model.members.toList.map Member.name = ["ping", "getUser"] ∧
      g.model.base = some "soapify.client.Client" ∧
      ∃ member, g.model.members.find? "ping" = some member ∧
        member.returnType = "app.types.Pong") ∧
    generate .standard halfBroken =
      .error (.assembly (.member "Broken" (.malformedTypeName "not a type"))) := by
  constructor
  · have hg := generate_of_faultless (p := .standard) (s := twiceNamed) (by decide)
    obtain ⟨hnames, -, halone, hbase⟩ := (generate_from_alone .standard twiceNamed).2.2 _ hg
    refine ⟨_, hg, hnames.trans (by decide), hbase, ?_⟩
    obtain ⟨member, hm, hfind⟩ := halone [_] _ [_] rfl (by decide)
    have hr : [member.returnType] = ["app.types.Pong"] :=
      (congrArg (List.map Member.returnType) hm).symm.trans (by decide)
    exact ⟨member, hfind, List.singleton_inj.1 hr⟩
  · refine ((generate_from_alone .standard halfBroken).2.1 _).2 ⟨[_], _, [], _, rfl, ?_, ?_, rfl⟩
    · decide
    · decide

end ClientGen
