import ClientGen.Proofs.ImportLines
import ClientGen.Proofs.Reach

namespace ClientGen

namespace Source

def boundTo (name : String) : String :=
  (splitLast name).2

/-- Whether an import line binds a local name to something other than what is meant by it, or at all
if it is meant to need no import. -/
def Rebinds (t : ImportTable) (localName : String) (meant : Option String) : Prop :=
  ∃ line ∈ importLines t, ∃ name ∈ importedBy line, boundTo name = localName ∧ meant ≠ some name

end Source

namespace ClassModel

/-- The qualified name that the first segment kept of a name stands for, unless the name is bare. -/
def meant (m : ClassModel) (t : TypeName) : Option String :=
  if t.qualifiers = [] then none else if m.KeepsLeaf t then some t.full else some t.space

theorem kept_eq_iff {m : ClassModel} {t u : TypeName} :
    m.kept t = m.kept u ↔
      t.leaf = u.leaf ∧ (m.KeepsLeaf t ∧ m.KeepsLeaf u ∨
        ¬m.KeepsLeaf t ∧ ¬m.KeepsLeaf u ∧ t.qualifiers.getLast? = u.qualifiers.getLast?) := by
  by_cases ht : m.KeepsLeaf t <;> by_cases hu : m.KeepsLeaf u
  · simp [kept_of_keepsLeaf, ht, hu]
  · simp [kept_of_keepsLeaf ht, kept_of_not_keepsLeaf hu, ht, hu]
  · simp [kept_of_not_keepsLeaf ht, kept_of_keepsLeaf hu, ht, hu]
  · rw [kept_of_not_keepsLeaf ht, kept_of_not_keepsLeaf hu, qualifiers_of_not_keepsLeaf ht,
      qualifiers_of_not_keepsLeaf hu]
    simp [ht, hu, and_comm]

theorem lookUp_of_anchored {m : ClassModel} (hm : m.IsAnchored) {written : String}
    (hw : written ∈ m.typeNames) :
    m.lookUp written = .ok (dotted (m.kept (TypeName.ofText written))) := by
  obtain ⟨hwell, hreach⟩ := hm written hw
  rw [m.lookUp_of_wellFormed hwell, spelled, spell_eq_kept hreach]

theorem lookUp_eq_iff_kept {m : ClassModel} (hm : m.IsAnchored) {a b : String}
    (ha : a ∈ m.typeNames) (hb : b ∈ m.typeNames) :
    m.lookUp a = m.lookUp b ↔ m.kept (TypeName.ofText a) = m.kept (TypeName.ofText b) := by
  rw [lookUp_of_anchored hm ha, lookUp_of_anchored hm hb, Except.ok.injEq]
  refine ⟨fun h => ?_, congrArg dotted⟩
  have hpa := TypeName.ofText_proper (hm a ha).1
  have hpb := TypeName.ofText_proper (hm b hb).1
  exact dotted_inj (kept_ne_nil m _) (kept_ne_nil m _) (isIdentifier_of_mem_kept hpa)
    (isIdentifier_of_mem_kept hpb) h

end ClassModel

theorem TypeName.Requires.proper {home name : String} {t : TypeName} {form : TypeName.Form}
    (h : t.Requires home form name) (ht : t.IsProper) :
    ∃ u : TypeName, u.IsProper ∧ name = u.full := by
  cases h with
  | full => exact ⟨t, ht, rfl⟩
  | space qualified =>
    have hq := two_le_length_segments_iff.1 qualified
    refine ⟨⟨t.qualifiers.dropLast, t.qualifiers.getLast hq⟩, ?_, ?_⟩
    · intro segment hs
      rw [TypeName.segments, List.dropLast_concat_getLast hq] at hs
      exact ht.qualifiers segment hs
    · rw [TypeName.full, TypeName.segments, List.dropLast_concat_getLast hq]
      rfl

theorem emptyClass_anchored (s : Service) : s.emptyClass.IsAnchored :=
  fun _ hw => nomatch hw

theorem anchored_of_generate {p : Profile} {s : Service} {g : Generated}
    (h : generate p s = .ok g) : g.model.IsAnchored := by
  obtain ⟨hf, hm, -⟩ := eq_of_generate h
  have hstep : ∀ op ∈ s.operations, ∀ m : ClassModel, m.IsAnchored →
      (Assembly.installed p op m).IsAnchored :=
    fun op hop _ => Assembly.installed_anchored (hf op hop)
  rw [hm]
  exact Assembly.assembled_preserves hstep (emptyClass_anchored s)

open Assembly

theorem imports_proper_of_generate {p : Profile} {s : Service} {g : Generated}
    (h : generate p s = .ok g) : g.model.imports.IsProper := by
  intro name hname
  obtain ⟨op, hop, form, written, t, hr, ht, hn⟩ := (mem_imports_of_generate h).1 hname
  have hwell := isWellFormed_of_mem ((eq_of_generate h).1 op hop) (mem_mentions_of_refers hr)
  rw [TypeName.parse_of_wellFormed hwell] at ht
  cases ht
  exact hn.proper (TypeName.ofText_proper hwell)

theorem rebinds_iff_of_generate {p : Profile} {s : Service} {g : Generated}
    (h : generate p s = .ok g) (localName : String) (meant : Option String) :
    Source.Rebinds g.model.imports localName meant ↔
      ∃ op ∈ s.operations, ∃ form written u name, Refers p op form written ∧
        TypeName.parse written = .ok u ∧ u.Requires s.home form name ∧
        Source.boundTo name = localName ∧ meant ≠ some name := by
  have hlines (name : String) : (∃ line ∈ Source.importLines g.model.imports,
      name ∈ Source.importedBy line) ↔ name ∈ g.model.imports.names :=
    Source.mem_importedBy_iff (imports_proper_of_generate h)
  constructor
  · rintro ⟨line, hline, name, hname, hbound, hmeant⟩
    obtain ⟨op, hop, form, written, u, hr, hu, hn⟩ :=
      (mem_imports_of_generate h).1 ((hlines name).1 ⟨line, hline, hname⟩)
    exact ⟨op, hop, form, written, u, name, hr, hu, hn, hbound, hmeant⟩
  · rintro ⟨op, hop, form, written, u, name, hr, hu, hn, hbound, hmeant⟩
    obtain ⟨line, hline, hname⟩ :=
      (hlines name).2 ((mem_imports_of_generate h).2 ⟨op, hop, form, written, u, hr, hu, hn⟩)
    exact ⟨line, hline, name, hname, hbound, hmeant⟩

/-- A declared type of a generated client is spelled by its leaf if it is bare, at home or imported
itself, and behind its parent if not. Two of them are spelled alike exactly if as much is kept of
both, and it is the same; and the name that a spelling begins with is taken by an import line
exactly if some operation refers to a type that requires something else of the name. -/
theorem spelled_alike_iff {p : Profile} {s : Service} {g : Generated}
    (h : generate p s = .ok g) :
    (∀ a ∈ g.model.typeNames, ∃ t, TypeName.parse a = .ok t ∧ t.full = TypeName.stripped a ∧
      g.model.lookUp a = .ok (dotted (g.model.kept t)) ∧
      (Source.Rebinds g.model.imports (g.model.localName t) (g.model.meant t) ↔
        ∃ op ∈ s.operations, ∃ form written u name, Refers p op form written ∧
          TypeName.parse written = .ok u ∧ u.Requires s.home form name ∧
          Source.boundTo name = g.model.localName t ∧ g.model.meant t ≠ some name)) ∧
    ∀ a ∈ g.model.typeNames, ∀ b ∈ g.model.typeNames, ∃ t u,
      TypeName.parse a = .ok t ∧ TypeName.parse b = .ok u ∧
      (g.model.lookUp a = g.model.lookUp b ↔
        t.leaf = u.leaf ∧ (g.model.KeepsLeaf t ∧ g.model.KeepsLeaf u ∨
          ¬g.model.KeepsLeaf t ∧ ¬g.model.KeepsLeaf u ∧
            t.qualifiers.getLast? = u.qualifiers.getLast?)) := by
  have hm := anchored_of_generate h
  constructor
  · intro a ha
    exact ⟨_, TypeName.parse_of_wellFormed (hm a ha).1, TypeName.full_ofText a,
      ClassModel.lookUp_of_anchored hm ha, rebinds_iff_of_generate h _ _⟩
  · intro a ha b hb
    refine ⟨_, _, TypeName.parse_of_wellFormed (hm a ha).1,
      TypeName.parse_of_wellFormed (hm b hb).1, ?_⟩
    rw [ClassModel.lookUp_eq_iff_kept hm ha hb, ClassModel.kept_eq_iff]

theorem variouslyTyped_rebound :
    ∃ g, generate .standard variouslyTyped = .ok g ∧
      g.model.lookUp "..Wrapper.User" ≠ g.model.lookUp "app.client.types.Key" ∧
      Source.Rebinds g.model.imports "types" (some "app.client.types") := by
  have hg := generate_of_faultless variouslyTyped_faultless
  obtain ⟨halone, hpairs⟩ := spelled_alike_iff hg
  have huser : TypeName.parse "..Wrapper.User" = .ok ⟨["Wrapper"], "User"⟩ := by decide
  have hkey : TypeName.parse "app.client.types.Key" = .ok ⟨["app", "client", "types"], "Key"⟩ := by
    decide
  refine ⟨_, hg, ?_, ?_⟩
  · obtain ⟨t, u, ht, hu, halike⟩ :=
      hpairs "..Wrapper.User" (by decide) "app.client.types.Key" (by decide)
    cases huser.symm.trans ht
    cases hkey.symm.trans hu
    rw [Ne, halike]
    decide +kernel
  · obtain ⟨t, ht, -, -, hrebinds⟩ := halone "app.client.types.Key" (by decide)
    cases hkey.symm.trans ht
    have hlocal : (assembled .standard variouslyTyped.operations variouslyTyped.emptyClass).localName
        ⟨["app", "client", "types"], "Key"⟩ = "types" := by
      decide +kernel
    have hmeant : (assembled .standard variouslyTyped.operations variouslyTyped.emptyClass).meant
        ⟨["app", "client", "types"], "Key"⟩ = some "app.client.types" := by
      decide +kernel
    rw [hlocal, hmeant] at hrebinds
    -- the parameter of the last operation is of a type in another module of this name
    exact hrebinds.2 ⟨packingOperation, by decide, .withParent, "app.types.Part",
      ⟨["app", "types"], "Part"⟩, "app.types", .parameterType
        (x := { name := "second", type := "app.types.Part" }) (by decide), by decide,
      .space (by decide) (by decide) (.inr (by decide)), by decide, by decide⟩

def homonyms : Service where
  className := "MixedClient"
  home := "app.client"
  operations := [
    ⟨{ wireName := "FindUser", returnType := "app.types.User" }, by decide⟩,
    ⟨{ wireName := "FindOther", returnType := "other.types.User" }, by decide⟩]
  className_ok := by decide

theorem homonyms_spelled_alike :
    ∃ g, generate .standard homonyms = .ok g ∧
      "app.types.User" ∈ g.model.typeNames ∧ "other.types.User" ∈ g.model.typeNames ∧
      TypeName.stripped "app.types.User" ≠ TypeName.stripped "other.types.User" ∧
      g.model.lookUp "app.types.User" = .ok "types.User" ∧
      g.model.lookUp "other.types.User" = .ok "types.User" ∧
      "from app import types" ∈ Source.importLines g.model.imports ∧
      "from other import types" ∈ Source.importLines g.model.imports := by
  refine ⟨_, generate_of_faultless (by decide), ?_⟩
  decide +kernel

end ClientGen
