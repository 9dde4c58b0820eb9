import ClientGen.Proofs.Imports
import ClientGen.Proofs.Rollback

namespace ClientGen

def Member.typeNames (member : Member) : List String :=
  member.returnType :: member.arguments.map Argument.type

namespace ClassModel

def typeNames (m : ClassModel) : List String :=
  m.base.toList ++ m.members.toList.flatMap Member.typeNames

/-- Whether a name can be spelled by its leaf. -/
def KeepsLeaf (m : ClassModel) (t : TypeName) : Prop :=
  t.qualifiers = [] ∨ t.space = m.home ∨ t.full ∈ m.imports.names

instance (m : ClassModel) (t : TypeName) : Decidable (m.KeepsLeaf t) :=
  inferInstanceAs (Decidable (_ ∨ _ ∨ _))

/-- Whether a name can be spelled behind its parent. -/
def KeepsParent (m : ClassModel) (t : TypeName) : Prop :=
  t.space ∈ m.imports.names ∨ t.outerSpace ≠ "" ∧ t.outerSpace = m.home

/-- Whether a name need not be spelled in full. -/
def Reaches (m : ClassModel) (t : TypeName) : Prop :=
  m.KeepsLeaf t ∨ m.KeepsParent t

/-- Whether all declared types are type names within reach. -/
def IsAnchored (m : ClassModel) : Prop :=
  ∀ written ∈ m.typeNames,
    TypeName.isWellFormed written = true ∧ m.Reaches (TypeName.ofText written)

theorem has_imports_iff {m : ClassModel} {name : String} :
    m.imports.has name = true ↔ name ∈ m.imports.names :=
  List.contains_iff_mem

theorem spell_of_keepsLeaf {m : ClassModel} {t : TypeName} (h : m.KeepsLeaf t) :
    m.spell t = t.leaf := by
  rw [spell]
  split
  · rfl
  · next parent hp =>
    have hne : t.qualifiers ≠ [] := by
      intro he
      rw [he] at hp
      cases hp
    rw [if_pos]
    rw [Bool.or_eq_true, beq_iff_eq, has_imports_iff]
    exact h.resolve_left hne

theorem spell_of_keepsParent {m : ClassModel} {t : TypeName} (hl : ¬m.KeepsLeaf t)
    (hp : m.KeepsParent t) {parent : String} (hlast : t.qualifiers.getLast? = some parent) :
    m.spell t = dotted [parent, t.leaf] := by
  rw [spell, hlast]
  simp only
  rw [if_neg, if_pos]
  · rw [Bool.or_eq_true, beq_iff_eq, has_imports_iff]
    exact hp.imp_right And.right
  · rw [Bool.or_eq_true, beq_iff_eq, has_imports_iff]
    exact fun he => hl (.inr he)

theorem Reaches.mono {m m' : ClassModel} {t : TypeName} (h : m.Reaches t)
    (hh : m'.home = m.home) (hi : ∀ name ∈ m.imports.names, name ∈ m'.imports.names) :
    m'.Reaches t := by
  rw [Reaches, KeepsLeaf, KeepsParent, hh]
  exact h.imp (Or.imp_right (Or.imp_right (hi _))) (Or.imp_left (hi _))

theorem keepsLeaf_of_required {m : ClassModel} {t : TypeName}
    (h : ∀ name, t.Requires m.home .plain name → name ∈ m.imports.names) : m.KeepsLeaf t := by
  by_cases hbare : t.qualifiers = []
  · exact .inl hbare
  by_cases hhome : t.space = m.home
  · exact .inr (.inl hhome)
  · exact .inr (.inr (h _ (.full (TypeName.two_le_length_segments_iff.2 hbare) hhome)))

/-- A name is within reach as soon as what its spelling requires is imported, in whichever form it
has been referred to. -/
theorem reaches_of_required {m : ClassModel} {t : TypeName} (ht : t.IsProper)
    (form : TypeName.Form)
    (h : ∀ name, t.Requires m.home form name → name ∈ m.imports.names) : m.Reaches t := by
  cases form with
  | plain => exact .inl (keepsLeaf_of_required h)
  | withParent =>
    by_cases hbare : t.qualifiers = []
    · exact .inl (.inl hbare)
    by_cases hhome : t.space = m.home
    · exact .inl (.inr (.inl hhome))
    have hq := TypeName.two_le_length_segments_iff.2 hbare
    by_cases houter : t.qualifiers.length = 1 ∨ t.outerSpace ≠ m.home
    · exact .inr (.inl (h _ (.space hq hhome houter)))
    · rw [not_or, not_not] at houter
      refine .inr (.inr ⟨?_, houter.2⟩)
      apply dotted_ne_empty
      · intro he
        exact houter.1 ((TypeName.isEmpty_dropLast_iff hbare).1 (List.isEmpty_iff.2 he))
      · exact fun q hmem => ht.qualifiers q (List.dropLast_subset _ hmem)

theorem lookUp_of_reaches {m : ClassModel} {written : String}
    (hw : TypeName.isWellFormed written = true) (hr : m.Reaches (TypeName.ofText written))
    (hq : (TypeName.ofText written).qualifiers ≠ []) :
    (m.lookUp written = .ok (TypeName.ofText written).leaf ∧
      ((TypeName.ofText written).space = m.home ∨
        (TypeName.ofText written).full ∈ m.imports.names)) ∨
    ∃ parent, (TypeName.ofText written).qualifiers.getLast? = some parent ∧
      m.lookUp written = .ok (dotted [parent, (TypeName.ofText written).leaf]) ∧
      m.KeepsParent (TypeName.ofText written) := by
  rw [m.lookUp_of_wellFormed hw, spelled]
  by_cases hl : m.KeepsLeaf (TypeName.ofText written)
  · exact .inl ⟨congrArg _ (spell_of_keepsLeaf hl), hl.resolve_left hq⟩
  · have hp := hr.resolve_left hl
    have hlast := List.getLast?_eq_some_getLast hq
    exact .inr ⟨_, hlast, congrArg _ (spell_of_keepsParent hl hp hlast), hp⟩

def localName (m : ClassModel) (t : TypeName) : String :=
  if m.KeepsLeaf t then t.leaf else t.qualifiers.getLastD ""

def kept (m : ClassModel) (t : TypeName) : List String :=
  if m.KeepsLeaf t then [t.leaf] else [m.localName t, t.leaf]

theorem kept_of_keepsLeaf {m : ClassModel} {t : TypeName} (h : m.KeepsLeaf t) :
    m.kept t = [t.leaf] :=
  if_pos h

theorem qualifiers_of_not_keepsLeaf {m : ClassModel} {t : TypeName} (h : ¬m.KeepsLeaf t) :
    t.qualifiers.getLast? = some (m.localName t) := by
  have hq : t.qualifiers ≠ [] := fun he => h (.inl he)
  rw [localName, if_neg h, List.getLastD_eq_getLast?, List.getLast?_eq_some_getLast hq,
    Option.getD_some]

theorem kept_of_not_keepsLeaf {m : ClassModel} {t : TypeName} (h : ¬m.KeepsLeaf t) :
    m.kept t = [m.localName t, t.leaf] :=
  if_neg h

theorem spell_eq_kept {m : ClassModel} {t : TypeName} (h : m.Reaches t) :
    m.spell t = dotted (m.kept t) := by
  by_cases hl : m.KeepsLeaf t
  · rw [spell_of_keepsLeaf hl, kept_of_keepsLeaf hl, dotted_singleton]
  · rw [spell_of_keepsParent hl (h.resolve_left hl) (qualifiers_of_not_keepsLeaf hl),
      kept_of_not_keepsLeaf hl]

theorem isIdentifier_of_mem_kept {m : ClassModel} {t : TypeName} (ht : t.IsProper) :
    ∀ segment ∈ m.kept t, isIdentifier segment = true := by
  by_cases hl : m.KeepsLeaf t
  · rw [kept_of_keepsLeaf hl]
    intro segment hs
    rw [List.mem_singleton.1 hs]
    exact ht.leaf
  · rw [kept_of_not_keepsLeaf hl]
    intro segment hs
    rcases List.mem_cons.1 hs with rfl | hs
    · exact ht.qualifiers _ (List.mem_of_getLast? (qualifiers_of_not_keepsLeaf hl))
    · rw [List.mem_singleton.1 hs]
      exact ht.leaf

theorem kept_ne_nil (m : ClassModel) (t : TypeName) : m.kept t ≠ [] := by
  rw [kept]
  split <;> exact List.cons_ne_nil _ _

theorem length_kept_le (m : ClassModel) (t : TypeName) : (m.kept t).length ≤ 2 := by
  rw [kept]
  split
  · exact Nat.le_succ 1
  · exact Nat.le_refl 2

/-- What is within reach and has three segments or more is shortened. -/
theorem spell_ne_full {m : ClassModel} {t : TypeName} (ht : t.IsProper) (hr : m.Reaches t)
    (h3 : 3 ≤ t.segments.length) : m.spell t ≠ t.full := by
  intro he
  have hne : t.segments ≠ [] := List.ne_nil_of_length_pos (by omega)
  rw [spell_eq_kept hr] at he
  have hall := dotted_inj (kept_ne_nil m t) hne (isIdentifier_of_mem_kept ht) ht he
  have hlength := length_kept_le m t
  rw [hall] at hlength
  omega

theorem mem_typeNames_iff {m : ClassModel} {written : String} :
    written ∈ m.typeNames ↔
      m.base = some written ∨ ∃ member ∈ m.members.toList, written ∈ member.typeNames := by
  rw [typeNames, List.mem_append, Option.mem_toList, List.mem_flatMap]

end ClassModel

namespace Assembly

/-- Every type that a class declares once a member is installed was declared before or is mentioned
by the operation. -/
theorem mem_typeNames_installed {p : Profile} {op : Operation} {m : ClassModel} {written : String}
    (h : written ∈ (installed p op m).typeNames) :
    written ∈ m.typeNames ∨ ∃ form, ⟨form, written⟩ ∈ mentions p op := by
  rcases ClassModel.mem_typeNames_iff.1 h with hbase | ⟨member, hmem, hw⟩
  · cases hbase
    exact .inr ⟨.plain, List.mem_cons_self⟩
  rw [installed_toList, List.mem_append, List.mem_singleton] at hmem
  rcases hmem with hold | rfl
  · exact .inl (ClassModel.mem_typeNames_iff.2 (.inr ⟨member, (List.mem_filter.1 hold).1, hw⟩))
  · rcases List.mem_cons.1 hw with rfl | hw
    · exact .inr ⟨.withParent, returnType_mem_mentions p op⟩
    · obtain ⟨a, ha, rfl⟩ := List.mem_map.1 hw
      exact .inr (argument_mem_mentions ha)

theorem installed_anchored {p : Profile} {op : Operation} (h : fault? p op = none)
    {m : ClassModel} (hm : m.IsAnchored) : (installed p op m).IsAnchored := by
  intro written hw
  rcases mem_typeNames_installed hw with hold | ⟨form, hr⟩
  · obtain ⟨hwell, hreach⟩ := hm written hold
    exact ⟨hwell, hreach.mono rfl fun name hn => mem_installed_imports.2 (.inl hn)⟩
  · have hwell := isWellFormed_of_mem h hr
    refine ⟨hwell, ClassModel.reaches_of_required (TypeName.ofText_proper hwell) form ?_⟩
    intro name hname
    exact mem_installed_imports.2 (.inr ⟨_, hr, TypeName.needs_spell_iff.2 hname⟩)

end Assembly

/-- What one edit makes of a class that is assembled. -/
inductive ClassModel.Edited (m : ClassModel) : ClassModel → Prop where
  | unchanged : Edited m m
  | imported (name : String) : Edited m (m.addImport name)
  | removed (name : String) : Edited m (m.removeMember name)
  | referred (rs : List Mention) : Edited m (m.referAll rs)
  | installed {p : Profile} {op : Operation} (h : Assembly.fault? p op = none) :
    Edited m (Assembly.installed p op m)

namespace ClassModel.Edited
variable {m m' : ClassModel}

theorem anchored (h : m.Edited m') (hm : m.IsAnchored) : m'.IsAnchored := by
  cases h with
  | unchanged => exact hm
  | imported name =>
    intro written hw
    obtain ⟨hwell, hreach⟩ := hm written hw
    exact ⟨hwell, hreach.mono rfl fun _ hn => mem_insertName.2 (.inr hn)⟩
  | removed name =>
    intro written hw
    apply hm written
    rcases mem_typeNames_iff.1 hw with hbase | ⟨member, hmem, hmw⟩
    · exact mem_typeNames_iff.2 (.inl hbase)
    · exact mem_typeNames_iff.2 (.inr ⟨member, (List.mem_filter.1 hmem).1, hmw⟩)
  | referred rs =>
    intro written hw
    obtain ⟨hwell, hreach⟩ := hm written hw
    exact ⟨hwell, hreach.mono rfl fun _ hn => ImportTable.mem_insertMany.2 (.inl hn)⟩
  | installed hf => exact Assembly.installed_anchored hf hm

theorem of_resolves {α : Type} {act : Edit Fault α} {rs : List Mention}
    {f : (Mention → String) → α} (h : act.Resolves rs f) (m : ClassModel) :
    m.Edited (act m).2 := by
  rw [h m]
  cases Mention.firstFault? rs with
  | none => exact .referred rs
  | some f => exact .referred _

theorem of_assemble (p : Profile) (op : Operation) (m : ClassModel) :
    m.Edited (assemble p op m).2 := by
  rw [assemble_run]
  cases h : Assembly.fault? p op with
  | none => exact .installed h
  | some f => exact .unchanged

theorem of_dispatchFrom (ctx : Context) (assemblers : List Assembler) (index : Nat)
    (m : ClassModel) : m.Edited (dispatchFrom index ctx assemblers m).2 := by
  induction assemblers generalizing index with
  | nil => exact .unchanged
  | cons a rest ih =>
    unfold dispatchFrom
    split
    · split
      · next p op _ =>
        have ha := of_assemble p op m
        rw [Edit.bind_run]
        cases hr : assemble p op m with
        | mk x m' =>
          rw [hr] at ha
          cases x <;> exact ha
      · exact .unchanged
      · exact .unchanged
    · exact ih (index + 1)

end ClassModel.Edited

namespace Session

theorem edit_edited {ε α : Type} {act : Edit ε α} (s : Session)
    (h : s.model.Edited (act s.model).2) (failure : ε → SessionError) (answer : α → Answer) :
    s.model.Edited (s.edit act failure answer).2.model := by
  rwa [edit_model]

theorem withOperation_edited {s : Session} {draft : OperationDraft} {run : Operation → Outcome}
    (h : ∀ op, s.model.Edited (run op).2.model) :
    s.model.Edited (s.withOperation draft run).2.model := by
  rw [withOperation]
  split
  · exact h _
  · exact .unchanged

theorem document_edited (s : Session) (p : Profile) (op : Operation) (shape : DocShape) :
    s.model.Edited (s.document p op shape).2.model := by
  cases shape with
  | bare => exact edit_edited s (.of_resolves (Assembly.bareDocBlock_resolves _ _) _) _ _
  | single =>
    simp only [document]
    split
    · exact .unchanged
    · exact edit_edited s (.of_resolves (Assembly.singleDocBlock_resolves _ _ _) _) _ _
  | packed => exact edit_edited s (.of_resolves (Assembly.packedDocBlock_resolves _ _ _) _) _ _

end Session

namespace Step

mutual

/-- Whether the class gets base and members by assembly alone, in a step and in all steps of a
transaction. -/
def declaresByAssembly : Step → Bool
  | .setBase _ => false
  | .addMember _ => false
  | .transaction steps _ _ => declareByAssembly steps
  | _ => true

def declareByAssembly : List Step → Bool
  | [] => true
  | step :: steps => step.declaresByAssembly && declareByAssembly steps

end

theorem run_edited (p : Profile) (s : Session) {step : Step}
    (hd : step.declaresByAssembly = true) (ht : step.isTransaction = false) :
    s.model.Edited (run p s step).2.model := by
  cases step with
  | setBase => simp [declaresByAssembly] at hd
  | addMember => simp [declaresByAssembly] at hd
  | addImport name => exact .imported name
  | removeMember name => exact .removed name
  | hasImport | hasMember | importCount | showImports | compareImports => exact .unchanged
  | saveImports | savedImports | lookUp | canAssemble | render | importLines => exact .unchanged
  | getMember | memberLines =>
    rw [run, Session.withMember_session]
    exact .unchanged
  | resolve form name =>
    exact Session.edit_edited s (.of_resolves (.resolve form name) _) _ _
  | assemble =>
    exact Session.withOperation_edited fun op =>
      Session.edit_edited s (.of_assemble p op _) _ _
  | describe => exact Session.withOperation_edited fun op => .unchanged
  | document shape =>
    exact Session.withOperation_edited fun op => Session.document_edited s p op shape
  | dispatch =>
    exact Session.withOperation_edited fun op =>
      Session.edit_edited s (.of_dispatchFrom _ _ _ _) _ _
  | dispatchKind => exact Session.edit_edited s (.of_dispatchFrom _ _ _ _) _ _
  | transaction => cases ht

mutual

theorem run_anchored (p : Profile) (s : Session) (step : Step)
    (hd : step.declaresByAssembly = true) (hm : s.model.IsAnchored) :
    (run p s step).2.model.IsAnchored := by
  cases ht : step.isTransaction with
  | false => exact (run_edited p s hd ht).anchored hm
  | true =>
    cases step with
    | transaction steps raised catches =>
      rw [run_transaction]
      cases failure? p s steps raised with
      | none =>
        rw [declaresByAssembly] at hd
        exact runAll_anchored p s steps hd hm
      | some e =>
        -- the table shrinks, but base and members go back with it
        change ((runAll p s steps).2.2.model.restore s.model).IsAnchored
        rwa [restore_runAll]
    | _ => cases ht

theorem runAll_anchored (p : Profile) (s : Session) (steps : List Step)
    (hd : declareByAssembly steps = true) (hm : s.model.IsAnchored) :
    (runAll p s steps).2.2.model.IsAnchored := by
  cases steps with
  | nil => exact hm
  | cons step steps =>
    rw [declareByAssembly, Bool.and_eq_true] at hd
    have h := run_anchored p s step hd.1 hm
    rw [runAll_cons]
    cases hr : run p s step with
    | mk x s' =>
      rw [hr] at h
      cases x with
      | error e => exact h
      | ok answer => exact runAll_anchored p s' steps hd.2 h

end

end Step

/-- The session behind steps, each of which is run with its profile, whatever became of the ones
before it. -/
def Session.afterEach (s : Session) (steps : List (Profile × Step)) : Session :=
  steps.foldl (fun s x => (x.2.run x.1 s).2) s

theorem Session.afterEach_anchored {steps : List (Profile × Step)}
    (hd : ∀ x ∈ steps, x.2.declaresByAssembly = true) {s : Session} (hm : s.model.IsAnchored) :
    (s.afterEach steps).model.IsAnchored ∧ (s.afterEach steps).model.home = s.model.home := by
  induction steps generalizing s with
  | nil => exact ⟨hm, rfl⟩
  | cons x steps ih =>
    have hrun := x.2.run_anchored x.1 s (hd x List.mem_cons_self) hm
    obtain ⟨hanchored, hhome⟩ := ih (fun y hy => hd y (List.mem_cons_of_mem x hy)) hrun
    exact ⟨hanchored, hhome.trans (x.2.run_samePlace x.1 s).2⟩

/-- Whatever steps of assembly, of resolving, adding imports and removing members are run on a class
without base and members, in transactions or not and with any profiles, the declared types can be
looked up, and are spelled by what is imported or in scope. -/
theorem typeNames_within_reach {s s' : Session} {steps : List (Profile × Step)}
    (hbase : s.model.base = none) (hmembers : s.model.members = ∅)
    (hd : ∀ x ∈ steps, x.2.declaresByAssembly = true) (hs : s.afterEach steps = s') :
    ∀ written ∈ s'.model.typeNames, ∃ t, TypeName.parse written = .ok t ∧
      t.full = TypeName.stripped written ∧
      (2 ≤ t.segments.length →
        (s'.model.lookUp written = .ok t.leaf ∧
          (t.space = s.model.home ∨ t.full ∈ s'.model.imports.names)) ∨
        ∃ parent, t.qualifiers.getLast? = some parent ∧
          s'.model.lookUp written = .ok (dotted [parent, t.leaf]) ∧
          (t.space ∈ s'.model.imports.names ∨
            t.outerSpace ≠ "" ∧ t.outerSpace = s.model.home)) ∧
      (3 ≤ t.segments.length → s'.model.lookUp written ≠ .ok t.full) := by
  have hstart : s.model.IsAnchored := by
    intro written hw
    rw [ClassModel.typeNames, hbase, hmembers] at hw
    cases hw
  obtain ⟨hm, hhome⟩ := Session.afterEach_anchored hd hstart
  rw [hs] at hm hhome
  intro written hw
  obtain ⟨hwell, hreach⟩ := hm written hw
  refine ⟨_, TypeName.parse_of_wellFormed hwell, TypeName.full_ofText written, ?_, ?_⟩
  · intro h2
    rw [← hhome]
    exact ClassModel.lookUp_of_reaches hwell hreach (TypeName.two_le_length_segments_iff.1 h2)
  · intro h3 he
    rw [s'.model.lookUp_of_wellFormed hwell] at he
    exact ClassModel.spell_ne_full (TypeName.ofText_proper hwell) hreach h3 (Except.ok.inj he)

/-- Steps that replace and remove members, fail, and go back, with two profiles. -/
def reassembly : List (Profile × Step) :=
  let broken : OperationDraft := { wireName := "GetUser", returnType := "not a type" }
  let getUser : OperationDraft := { wireName := "GetUser", returnType := "app.types.User" }
  let getKey : OperationDraft := { wireName := "GetUser", returnType := "app.client.types.Key" }
  [(.standard, .assemble getUser),
    ({ Profile.standard with clientBase := "acme.Base" },
      .transaction [.assemble getKey, .assemble broken] none true),
    (.standard, .transaction [.removeMember "getUser", .dispatch [.members .standard] getKey,
      .addImport "app.types.User"] (some "no") true),
    (.standard, .resolve .plain "app.types.User")]

theorem reassembly_within_reach :
    (∀ x ∈ reassembly, x.2.declaresByAssembly = true) ∧
    ∃ s', (Session.start { name := "UserClient", home := "app.client" }).afterEach reassembly = s' ∧
      s'.model.typeNames = ["soapify.client.Client", "app.types.User"] ∧
      ((s'.model.lookUp "app.types.User" = .ok "User" ∧
          "app.types.User" ∈ s'.model.imports.names) ∨
        (s'.model.lookUp "app.types.User" = .ok "types.User" ∧
          "app.types" ∈ s'.model.imports.names)) := by
  have hd : ∀ x ∈ reassembly, x.2.declaresByAssembly = true := by decide
  have hnames : ((Session.start { name := "UserClient", home := "app.client" }).afterEach
      reassembly).model.typeNames = ["soapify.client.Client", "app.types.User"] := by
    decide +kernel
  refine ⟨hd, _, rfl, hnames, ?_⟩
  obtain ⟨t, ht, -, hshort, -⟩ :=
    typeNames_within_reach (s := .start { name := "UserClient", home := "app.client" }) rfl rfl
      hd rfl "app.types.User" (hnames ▸ by decide)
  have hp : TypeName.parse "app.types.User" = .ok ⟨["app", "types"], "User"⟩ := by decide
  rw [hp] at ht
  cases ht
  rcases hshort (by decide) with ⟨hleaf, himported⟩ | ⟨parent, hlast, hbehind, himported⟩
  · exact .inl ⟨hleaf, himported.resolve_left (by decide)⟩
  · cases hlast
    exact .inr ⟨hbehind, himported.resolve_right (by decide)⟩

end ClientGen
