import ClientGen.Proofs.Generation
import ClientGen.Proofs.Spelling
import Mathlib.Data.List.Sort

namespace ClientGen

theorem ImportTable.eq_of_mem_iff {t u : ImportTable} (h : ∀ name, name ∈ t.names ↔ name ∈ u.names) :
    t = u := by
  obtain ⟨names, hn⟩ := t
  obtain ⟨names', hn'⟩ := u
  cases hn.eq_of_mem_iff hn' h
  rfl

theorem ImportTable.insertMany_of_mem {t : ImportTable} {names : List String}
    (h : ∀ name ∈ names, name ∈ t.names) : t.insertMany names = t := by
  apply eq_of_mem_iff
  intro name
  rw [mem_insertMany, or_iff_left_of_imp (h name)]

namespace TypeName

/-- What a class of the namespace `home` has to import for a name that it refers to. -/
inductive Requires (home : String) (t : TypeName) : Form → String → Prop where
  | full (qualified : 2 ≤ t.segments.length) (foreign : t.space ≠ home) :
    Requires home t .plain t.full
  | space (qualified : 2 ≤ t.segments.length) (foreign : t.space ≠ home)
      (outer : t.qualifiers.length = 1 ∨ t.outerSpace ≠ home) :
    Requires home t .withParent t.space

theorem two_le_length_segments_iff {t : TypeName} :
    2 ≤ t.segments.length ↔ t.qualifiers ≠ [] := by
  rw [segments, List.length_append, List.length_singleton, ← List.length_pos_iff]
  omega

theorem spell_of_bare {t : TypeName} (h : t.qualifiers = []) (home : String) (form : Form) :
    t.spell home form = ⟨t.leaf, none⟩ := by
  rw [spell, h]
  rfl

theorem spell_at_home {t : TypeName} {home : String} (h : t.space = home) (form : Form) :
    t.spell home form = ⟨t.leaf, none⟩ := by
  rw [spell]
  split
  · rfl
  · rw [if_pos (beq_iff_eq.2 h)]

theorem isEmpty_dropLast_iff {qualifiers : List String} (h : qualifiers ≠ []) :
    qualifiers.dropLast.isEmpty = true ↔ qualifiers.length = 1 := by
  have hpos := List.length_pos_iff.2 h
  rw [List.isEmpty_iff, ← List.length_eq_zero_iff, List.length_dropLast]
  omega

theorem needs_spell_iff {t : TypeName} {home name : String} {form : Form} :
    (t.spell home form).needs = some name ↔ t.Requires home form name := by
  by_cases hbare : t.qualifiers = []
  · rw [spell_of_bare hbare]
    constructor
    · exact fun h => nomatch h
    · intro h
      cases h with
      | full qualified => exact absurd hbare (two_le_length_segments_iff.1 qualified)
      | space qualified => exact absurd hbare (two_le_length_segments_iff.1 qualified)
  by_cases hhome : t.space = home
  · rw [spell_at_home hhome]
    constructor
    · exact fun h => nomatch h
    · intro h
      cases h with
      | full _ foreign => exact absurd hhome foreign
      | space _ foreign => exact absurd hhome foreign
  · have hlast := List.getLast?_eq_some_getLast hbare
    have hq := two_le_length_segments_iff.2 hbare
    have hne : ¬(t.space == home) = true := fun he => hhome (eq_of_beq he)
    rw [spell, hlast]
    simp only [if_neg hne]
    cases form with
    | plain =>
      constructor
      · intro h
        cases h
        exact .full hq hhome
      · intro h
        cases h
        rfl
    | withParent =>
      simp only [Bool.or_eq_true, bne_iff_ne, isEmpty_dropLast_iff hbare,
        Option.ite_none_right_eq_some, Option.some.injEq]
      constructor
      · rintro ⟨houter, rfl⟩
        exact .space hq hhome houter
      · intro h
        cases h with
        | space _ _ outer => exact ⟨outer, rfl⟩

end TypeName

namespace Assembly

/-- The type names that a member for an operation refers to, and how much of them it keeps. -/
inductive Refers (p : Profile) (op : Operation) : TypeName.Form → String → Prop where
  | clientBase : Refers p op .plain p.clientBase
  | resultInterface : Refers p op .plain p.resultInterface
  | faultType (few : op.parameters.length < 2) : Refers p op .plain p.faultType
  | requestInterface (single : op.parameters.length = 1) : Refers p op .plain p.requestInterface
  | multiArgumentType (several : 2 ≤ op.parameters.length) :
    Refers p op .plain p.multiArgumentType
  | returnType : Refers p op .withParent op.returnType
  | parameterType {x : Parameter} (mem : x ∈ op.parameters) : Refers p op .withParent x.type

theorem refers_of_mem_mentions {p : Profile} {op : Operation} {r : Mention}
    (h : r ∈ mentions p op) : Refers p op r.form r.name := by
  have hreturn : ∀ r ∈ returnMentions p op.returnType, Refers p op r.form r.name := by
    intro r hr
    rcases List.mem_cons.1 hr with rfl | hr
    · exact .resultInterface
    · cases List.mem_singleton.1 hr
      exact .returnType
  rw [mentions, docMentions] at h
  rcases List.mem_cons.1 h with rfl | h
  · exact .clientBase
  cases hx : op.parameters with
  | nil =>
    rw [hx] at h
    rcases List.mem_append.1 h with h | h
    · exact hreturn r h
    · cases List.mem_singleton.1 h
      exact .faultType (by simp [hx])
  | cons x xs =>
    rw [hx] at h
    cases xs with
    | nil =>
      rcases List.mem_append.1 h with h | h
      · rcases List.mem_append.1 h with h | h
        · rcases List.mem_cons.1 h with rfl | h
          · exact .requestInterface (by simp [hx])
          · cases List.mem_singleton.1 h
            exact .parameterType (by simp [hx])
        · exact hreturn r h
      · cases List.mem_singleton.1 h
        exact .faultType (by simp [hx])
    | cons y ys =>
      rcases List.mem_append.1 h with h | h
      · rcases List.mem_append.1 h with h | h
        · obtain ⟨z, hz, rfl⟩ := List.mem_map.1 h
          exact .parameterType (hx ▸ hz)
        · cases List.mem_singleton.1 h
          exact .multiArgumentType (by simp [hx])
      · exact hreturn r h

theorem mem_mentions_of_refers {p : Profile} {op : Operation} {form : TypeName.Form}
    {name : String} (h : Refers p op form name) : ⟨form, name⟩ ∈ mentions p op := by
  rw [mentions, docMentions]
  cases h with
  | clientBase => exact List.mem_cons_self
  | resultInterface => split <;> simp [returnMentions]
  | returnType => split <;> simp [returnMentions]
  | faultType few =>
    rcases hx : op.parameters with _ | ⟨x, _ | ⟨y, ys⟩⟩
    · simp
    · simp
    · rw [hx, List.length_cons, List.length_cons] at few
      omega
  | requestInterface single =>
    obtain ⟨x, hx⟩ := List.length_eq_one_iff.1 single
    simp [hx]
  | multiArgumentType several =>
    rcases hx : op.parameters with _ | ⟨x, _ | ⟨y, ys⟩⟩
    · simp [hx] at several
    · simp [hx] at several
    · simp
  | parameterType mem =>
    have hm := List.mem_map_of_mem (f := fun x : Parameter => (⟨.withParent, x.type⟩ : Mention)) mem
    rcases hx : op.parameters with _ | ⟨x, _ | ⟨y, ys⟩⟩
    · simp [hx] at mem
    · rw [hx] at hm
      simp [List.mem_singleton.1 hm]
    · rw [hx] at hm
      exact List.mem_cons_of_mem _ (List.mem_append_left _ (List.mem_append_left _ hm))

theorem mem_installed_imports {p : Profile} {op : Operation} {m : ClassModel} {name : String} :
    name ∈ (installed p op m).imports.names ↔
      name ∈ m.imports.names ∨ ∃ r ∈ mentions p op, r.needs m.home = some name := by
  have hi : (installed p op m).imports =
      m.imports.insertMany ((mentions p op).filterMap (Mention.needs m.home)) := rfl
  rw [hi, ImportTable.mem_insertMany, List.mem_filterMap]

theorem mem_assembled_imports {p : Profile} {ops : List Operation} {m : ClassModel}
    {name : String} :
    name ∈ (assembled p ops m).imports.names ↔
      name ∈ m.imports.names ∨
        ∃ op ∈ ops, ∃ r ∈ mentions p op, r.needs m.home = some name := by
  induction ops generalizing m with
  | nil => simp [assembled]
  | cons op ops ih =>
    have hh : (installed p op m).home = m.home := rfl
    have hstep : assembled p (op :: ops) m = assembled p ops (installed p op m) := rfl
    rw [hstep, ih, hh, mem_installed_imports, List.exists_mem_cons_iff, or_assoc]

theorem parse_of_refers {p : Profile} {op : Operation} (h : fault? p op = none)
    {form : TypeName.Form} {written : String} (hr : Refers p op form written) :
    TypeName.parse written = .ok (TypeName.ofText written) :=
  TypeName.parse_of_wellFormed (isWellFormed_of_mem h (mem_mentions_of_refers hr))

end Assembly

open Assembly

theorem mem_imports_of_generate {p : Profile} {s : Service} {g : Generated}
    (h : generate p s = .ok g) {name : String} :
    name ∈ g.model.imports.names ↔
      ∃ op ∈ s.operations, ∃ form written t, Refers p op form written ∧
        TypeName.parse written = .ok t ∧ t.Requires s.home form name := by
  obtain ⟨hf, hm, -⟩ := eq_of_generate h
  have hempty : name ∉ s.emptyClass.imports.names := fun hn => nomatch hn
  rw [hm, mem_assembled_imports, or_iff_right hempty]
  constructor
  · rintro ⟨op, hop, r, hr, hn⟩
    have href := refers_of_mem_mentions hr
    exact ⟨op, hop, r.form, r.name, _, href, parse_of_refers (hf op hop) href,
      TypeName.needs_spell_iff.1 hn⟩
  · rintro ⟨op, hop, form, written, t, hr, ht, hn⟩
    rw [parse_of_refers (hf op hop) hr] at ht
    cases ht
    exact ⟨op, hop, ⟨form, written⟩, mem_mentions_of_refers hr, TypeName.needs_spell_iff.2 hn⟩

/-- All that the operations of a generated client refer to are type names, and what is imported is
what they require, no more and no less. -/
theorem mem_imports_iff {p : Profile} {s : Service} {g : Generated} (h : generate p s = .ok g) :
    (∀ op ∈ s.operations, ∀ form written, Refers p op form written →
      ∃ t, TypeName.parse written = .ok t ∧ t.full = TypeName.stripped written) ∧
    (∀ name, name ∈ g.model.imports.names ↔
      ∃ op ∈ s.operations, ∃ form written t, Refers p op form written ∧
        TypeName.parse written = .ok t ∧ t.Requires s.home form name) ∧
    (s.operations = [] → g.model.imports.names = []) := by
  obtain ⟨hf, -, -⟩ := eq_of_generate h
  refine ⟨?_, fun name => mem_imports_of_generate h, ?_⟩
  · intro op hop form written hr
    exact ⟨_, parse_of_refers (hf op hop) hr, TypeName.full_ofText written⟩
  · intro hnone
    apply List.eq_nil_iff_forall_not_mem.2
    intro name hn
    obtain ⟨op, hop, -⟩ := (mem_imports_of_generate h).1 hn
    rw [hnone] at hop
    cases hop

def packingOperation : Operation :=
  ⟨{ wireName := "Pack", returnType := "list", parameters := [
    { name := "first", type := "int" }, { name := "second", type := "app.types.Part" }] },
    by decide⟩

def wrappingOperation : Operation :=
  ⟨{ wireName := "GetUser", returnType := "..Wrapper.User", parameters := [
    { name := "key", type := "app.client.types.Key" }] }, by decide⟩

/-- A service with types of its own namespace, below it, of a module at the top and of elsewhere. -/
def variouslyTyped : Service where
  className := "VariedClient"
  home := "app.client"
  operations := [
    ⟨{ wireName := "Ping", returnType := "app.client.Pong" }, by decide⟩, wrappingOperation,
    packingOperation]
  className_ok := by decide

theorem variouslyTyped_faultless : failure? .standard variouslyTyped.operations = none := by
  decide

theorem variouslyTyped_names :
    (assembled .standard variouslyTyped.operations variouslyTyped.emptyClass).imports.names =
      ["Wrapper", "app.types", "soapify.client.Client", "soapify.exceptions.SoapException",
        "soapify.types.MultiArgumentRequest", "soapify.types.RequestInterface",
        "soapify.types.ResultInterface"] := by
  decide +kernel

theorem variouslyTyped_imports :
    ∃ g, generate .standard variouslyTyped = .ok g ∧
      g.model.imports.names = ["Wrapper", "app.types", "soapify.client.Client",
        "soapify.exceptions.SoapException", "soapify.types.MultiArgumentRequest",
        "soapify.types.RequestInterface", "soapify.types.ResultInterface"] ∧
      "Wrapper" ∈ g.model.imports.names ∧ "app.types" ∈ g.model.imports.names ∧
      "app.client.types" ∉ g.model.imports.names := by
  have hg := generate_of_faultless variouslyTyped_faultless
  obtain ⟨-, himports, -⟩ := mem_imports_iff hg
  refine ⟨_, hg, by decide, ?_, ?_, by decide⟩
  · refine (himports "Wrapper").2
      ⟨wrappingOperation, by decide, .withParent, _, ⟨["Wrapper"], "User"⟩,
        .returnType, by decide, .space (by decide) (by decide) (.inl rfl)⟩
  · refine (himports "app.types").2 ⟨packingOperation, by decide, .withParent, _,
      ⟨["app", "types"], "Part"⟩, .parameterType (x := { name := "second", type := "app.types.Part" })
        (by decide), by decide, .space (by decide) (by decide) (.inr (by decide))⟩

end ClientGen
