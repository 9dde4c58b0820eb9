import ClientGen.Proofs.Imports

namespace ClientGen

open Assembly

namespace Service

/-- Whether a reference registers a name for a class of the service that imports nothing else. -/
def Registers (s : Service) (form : TypeName.Form) (written name : String) : Prop :=
  name ∈ (resolve form written s.emptyClass).2.imports.names

instance (s : Service) (form : TypeName.Form) (written name : String) :
    Decidable (s.Registers form written name) :=
  inferInstanceAs (Decidable (_ ∈ _))

/-- Whether some reference of the member for an operation registers a name. -/
def RegistersFor (s : Service) (p : Profile) (op : Operation) (name : String) : Prop :=
  ∃ form written, Refers p op form written ∧ s.Registers form written name

/-- Whether a class of the service needs a name: for its base, or for a reference of a member that
is still there. -/
def Needs (s : Service) (p : Profile) (m : ClassModel) (name : String) : Prop :=
  (∃ base, m.base = some base ∧ s.Registers .plain base name) ∨
    ∃ op ∈ lastNamed p s.operations, s.RegistersFor p op name

theorem registers_iff {s : Service} {form : TypeName.Form} {written name : String} :
    s.Registers form written name ↔
      ∃ t, TypeName.parse written = .ok t ∧ t.Requires s.home form name := by
  have hempty : name ∉ s.emptyClass.imports.names := fun hn => nomatch hn
  have hresolve := Edit.Resolves.resolve form written
  rw [Registers]
  cases hw : TypeName.isWellFormed written with
  | true =>
    have hneeds : name ∈ (s.emptyClass.referAll [⟨form, written⟩]).imports.names ↔
        ((TypeName.ofText written).spell s.home form).needs = some name := by
      rw [ClassModel.referAll, ImportTable.mem_insertMany, or_iff_right hempty, List.mem_filterMap]
      simp only [List.mem_singleton, exists_eq_left]
      rfl
    rw [hresolve.run_ok (Mention.firstFault?_of_wellFormed hw form), hneeds,
      TypeName.needs_spell_iff, TypeName.parse_of_wellFormed hw]
    constructor
    · exact fun h => ⟨_, rfl, h⟩
    · rintro ⟨t, ht, h⟩
      cases ht
      exact h
  | false =>
    have hnone : [(⟨form, written⟩ : Mention)].takeWhile Mention.isWellFormed = [] :=
      List.takeWhile_cons_of_neg (Bool.eq_false_iff.1 hw)
    rw [hresolve.run_error (Mention.firstFault?_of_malformed hw form), hnone,
      ClassModel.referAll_nil, TypeName.parse_of_malformed hw]
    constructor
    · exact fun h => absurd h hempty
    · rintro ⟨t, ht, -⟩
      cases ht

theorem registersFor_iff {s : Service} {p : Profile} {op : Operation} {name : String} :
    s.RegistersFor p op name ↔ ∃ r ∈ mentions p op, s.Registers r.form r.name name := by
  constructor
  · rintro ⟨form, written, hr, hn⟩
    exact ⟨_, mem_mentions_of_refers hr, hn⟩
  · rintro ⟨r, hr, hn⟩
    exact ⟨_, _, refers_of_mem_mentions hr, hn⟩

instance (s : Service) (p : Profile) (op : Operation) (name : String) :
    Decidable (s.RegistersFor p op name) :=
  decidable_of_iff _ registersFor_iff.symm

end Service

section Generated
variable {p : Profile} {s : Service} {g : Generated}

theorem mem_imports_iff_registered (h : generate p s = .ok g) {name : String} :
    name ∈ g.model.imports.names ↔ ∃ op ∈ s.operations, s.RegistersFor p op name := by
  rw [mem_imports_of_generate h]
  simp only [Service.RegistersFor, Service.registers_iff, exists_and_left]

theorem needs_iff_of_generate (h : generate p s = .ok g) {name : String} :
    s.Needs p g.model name ↔ ∃ op ∈ lastNamed p s.operations, s.RegistersFor p op name := by
  rw [Service.Needs, base_of_generate h, or_iff_right_of_imp]
  rintro ⟨base, hb, hn⟩
  have hne : s.operations ≠ [] := by
    intro he
    rw [if_pos he] at hb
    cases hb
  rw [if_neg hne] at hb
  cases hb
  have hlast : lastNamed p s.operations ≠ [] := by
    intro he
    have hd := map_nameOf_lastNamed p s.operations
    rw [he, eq_comm, List.map_nil, List.dedup_eq_nil, List.map_eq_nil_iff] at hd
    exact hne hd
  obtain ⟨op, hop⟩ := List.exists_mem_of_ne_nil _ hlast
  exact ⟨op, hop, _, _, .clientBase, hn⟩

theorem not_needs_iff_of_generate (h : generate p s = .ok g) {name : String} :
    ¬s.Needs p g.model name ↔ ∀ before op after, s.operations = before ++ op :: after →
      s.RegistersFor p op name → ∃ o ∈ after, nameOf p o = nameOf p op := by
  rw [needs_iff_of_generate h]
  constructor
  · intro hn before op after ho hr
    by_contra hlast
    push Not at hlast
    exact hn ⟨op, mem_lastNamed_iff.2 ⟨before, after, ho, hlast⟩, hr⟩
  · rintro hreplaced ⟨op, hop, hr⟩
    obtain ⟨before, after, ho, hlast⟩ := mem_lastNamed_iff.1 hop
    obtain ⟨o, hm, he⟩ := hreplaced before op after ho hr
    exact hlast o hm he

theorem members_alone_of_generate (h : generate p s = .ok g) :
    g.model.members.toList =
      (lastNamed p s.operations).flatMap fun op => (assemble p op s.emptyClass).2.members.toList := by
  have halone : ∀ op ∈ lastNamed p s.operations,
      (assemble p op s.emptyClass).2.members.toList = [memberOf s.home p op] := by
    intro op hop
    have hf := (eq_of_generate h).1 op ((lastNamed_sublist p s.operations).subset hop)
    rw [assemble_of_faultless hf]
    exact emptyClass_installed p s op
  rw [members_of_generate h, List.map_eq_flatMap]
  exact List.flatMap_congr fun op hop => (halone op hop).symm

end Generated

/-- The members of a generated client are those that the last operations of each member name give.
What is needed is imported, and all that is imported is registered for some operation. It is not
needed exactly if each operation that it is registered for is followed by one of the same member
name; so all of it is needed if no two operations share their member name. -/
theorem imports_needed_iff {p : Profile} {s : Service} {g : Generated}
    (h : generate p s = .ok g) :
    (g.model.members.toList = (lastNamed p s.operations).flatMap fun op =>
      (assemble p op s.emptyClass).2.members.toList) ∧
    (∀ name, s.Needs p g.model name → name ∈ g.model.imports.names) ∧
    ∀ name ∈ g.model.imports.names,
      (∃ op ∈ s.operations, s.RegistersFor p op name) ∧
      (¬s.Needs p g.model name ↔ ∀ before op after, s.operations = before ++ op :: after →
        s.RegistersFor p op name → ∃ o ∈ after, nameOf p o = nameOf p op) ∧
      ((s.operations.map (nameOf p)).Nodup → s.Needs p g.model name) := by
  refine ⟨members_alone_of_generate h, ?_, ?_⟩
  · intro name hn
    obtain ⟨op, hop, hr⟩ := (needs_iff_of_generate h).1 hn
    exact (mem_imports_iff_registered h).2 ⟨op, (lastNamed_sublist p s.operations).subset hop, hr⟩
  intro name hname
  have hregistered := (mem_imports_iff_registered h).1 hname
  refine ⟨hregistered, not_needs_iff_of_generate h, ?_⟩
  intro hd
  rw [needs_iff_of_generate h, lastNamed_of_nodup hd]
  exact hregistered

theorem variouslyTyped_imports_needed :
    ∃ g, generate .standard variouslyTyped = .ok g ∧ "Wrapper" ∈ g.model.imports.names ∧
      ∀ name ∈ g.model.imports.names, variouslyTyped.Needs .standard g.model name := by
  have hg := generate_of_faultless variouslyTyped_faultless
  obtain ⟨-, -, himports⟩ := imports_needed_iff hg
  refine ⟨_, hg, ?_, ?_⟩
  · rw [variouslyTyped_names]
    decide
  · intro name hname
    exact (himports name hname).2.2 (by decide)

def retyped : Service where
  className := "MailClient"
  home := "app.client"
  operations := [
    ⟨{ wireName := "get-mail", returnType := "app.types.Mail" }, by decide⟩,
    ⟨{ wireName := "GetMail", returnType := "int" }, by decide⟩]
  className_ok := by decide

/-- What the replaced member has imported is left behind. -/
theorem retyped_import_left :
    ∃ g, generate .standard retyped = .ok g ∧
      g.model.members.toList.map Member.returnType = ["int"] ∧
      "app.types" ∈ g.model.imports.names ∧ ¬retyped.Needs .standard g.model "app.types" := by
  have hg := generate_of_faultless (p := .standard) (s := retyped) (by decide)
  refine ⟨_, hg, by decide, by decide, ?_⟩
  rw [needs_iff_of_generate hg]
  decide

end ClientGen
