import ClientGen.Proofs.Reach
import ClientGen.Proofs.Tidy

namespace ClientGen

namespace Source

/-- What stands in a text behind the first `left` and blanks, up to the next `right`. -/
def between (left right : Char) (s : String) : String :=
  let behind := (s.toList.dropWhile (· != left)).drop 1
  String.ofList ((behind.dropWhile (· == ' ')).takeWhile (· != right))

/-- The type that the first line of a member says is returned. -/
def returnAnnotation (line : String) : String :=
  between '>' ':' line

/-- The type that the first line of a member gives to its argument. -/
def argumentAnnotation (line : String) : String :=
  between ':' ')' line

theorem between_eq {left right : Char} {before blank text after : List Char} {s : String}
    (hs : s.toList = before ++ left :: (blank ++ (text ++ after))) (hleft : left ∉ before)
    (hblank : ∀ c ∈ blank, c = ' ') (hne : text ≠ []) (hspace : ' ' ∉ text) (hright : right ∉ text)
    (hafter : after = [] ∨ after.head? = some right) :
    between left right s = String.ofList text := by
  have hl : ∀ c ∈ before, (c != left) = true := by
    intro c hc
    rw [bne_iff_ne]
    rintro rfl
    exact hleft hc
  have hb : ∀ c ∈ blank, (c == ' ') = true := fun c hc => beq_iff_eq.2 (hblank c hc)
  have hr : ∀ c ∈ text, (c != right) = true := by
    intro c hc
    rw [bne_iff_ne]
    rintro rfl
    exact hright hc
  have htext : (text ++ after).dropWhile (· == ' ') = text ++ after := by
    obtain ⟨c, cs, rfl⟩ := List.exists_cons_of_ne_nil hne
    have hc : ¬(c == ' ') = true := fun he => hspace (eq_of_beq he ▸ List.mem_cons_self)
    rw [List.cons_append, List.dropWhile_cons_of_neg (p := (· == ' ')) hc]
  have hend : after.takeWhile (· != right) = [] := by
    rcases hafter with rfl | hafter
    · rfl
    · obtain ⟨cs, rfl⟩ := List.head?_eq_some_iff.1 hafter
      exact List.takeWhile_cons_of_neg (by simp)
  rw [between, hs, List.dropWhile_append_of_pos hl, List.dropWhile_cons_of_neg (by simp),
    List.drop_one, List.tail_cons, List.dropWhile_append_of_pos hb, htext,
    List.takeWhile_append_of_pos hr, hend, List.append_nil]

/-- A dotted name is found again between two marks that it cannot hold. -/
theorem between_of_isDotted {left right : Char} {before blank after : List Char} {name s : String}
    (hs : s.toList = before ++ left :: (blank ++ (name.toList ++ after))) (hleft : left ∉ before)
    (hblank : ∀ c ∈ blank, c = ' ') (hname : IsDotted name)
    (hright : Unicode.isIdContinue right = false) (hdot : right ≠ '.')
    (hafter : after = [] ∨ after.head? = some right) : between left right s = name := by
  have hne : name.toList ≠ [] := fun he => hname.ne_empty (String.toList_eq_nil_iff.1 he)
  rw [between_eq hs hleft hblank hne (hname.not_mem (by decide) (by decide))
    (hname.not_mem hright hdot) hafter, String.ofList_toList]

end Source

/-- The type that the tag of a documentation names behind a bar. -/
def DocBlock.typeBehindBar? (d : DocBlock) (tag : String) : Option String :=
  (d.tags.find? fun t => t.name == tag).map fun t => Source.between '|' ' ' t.description

namespace ClassModel

/-- Whether a name of another namespace is spelled without its parent, since it is imported
itself. -/
def DropsParent (m : ClassModel) (t : TypeName) : Prop :=
  t.qualifiers ≠ [] ∧ t.space ≠ m.home ∧ t.full ∈ m.imports.names

instance (m : ClassModel) (t : TypeName) : Decidable (m.DropsParent t) :=
  inferInstanceAs (Decidable (_ ∧ _ ∧ _))

theorem keepsLeaf_of_dropsParent {m : ClassModel} {t : TypeName} (h : m.DropsParent t) :
    m.KeepsLeaf t :=
  .inr (.inr h.2.2)

theorem short_withParent {t : TypeName} {home parent : String}
    (hlast : t.qualifiers.getLast? = some parent) (hhome : t.space ≠ home) :
    (t.spell home .withParent).short = dotted [parent, t.leaf] := by
  have hne : ¬(t.space == home) = true := fun he => hhome (eq_of_beq he)
  rw [TypeName.spell, hlast]
  simp only [if_neg hne]

theorem leaf_ne_behindParent {t : TypeName} (ht : t.IsProper) {parent : String}
    (hlast : t.qualifiers.getLast? = some parent) : t.leaf ≠ dotted [parent, t.leaf] := by
  intro he
  have hparent : isIdentifier parent = true :=
    ht.qualifiers parent (List.mem_of_getLast? hlast)
  have hsegments : [t.leaf] = [parent, t.leaf] :=
    dotted_inj (List.cons_ne_nil _ _) (List.cons_ne_nil _ _) (by simp [ht.leaf])
      (by simp [hparent, ht.leaf]) ((dotted_singleton t.leaf).trans he)
  simp at hsegments

/-- A name whose parent is in scope is spelled as a reference with the parent is, unless the name is
imported itself. -/
theorem spell_eq_short_iff {m : ClassModel} {t : TypeName} (ht : t.IsProper)
    (hr : ∀ name, t.Requires m.home .withParent name → name ∈ m.imports.names) :
    m.spell t = (t.spell m.home .withParent).short ↔ ¬m.DropsParent t := by
  by_cases hbare : t.qualifiers = []
  · rw [spell_of_keepsLeaf (.inl hbare), TypeName.spell_of_bare hbare]
    exact ⟨fun _ h => h.1 hbare, fun _ => rfl⟩
  by_cases hhome : t.space = m.home
  · rw [spell_of_keepsLeaf (.inr (.inl hhome)), TypeName.spell_at_home hhome]
    exact ⟨fun _ h => h.2.1 hhome, fun _ => rfl⟩
  have hlast := List.getLast?_eq_some_getLast hbare
  rw [short_withParent hlast hhome]
  by_cases himported : t.full ∈ m.imports.names
  · have hd : m.DropsParent t := ⟨hbare, hhome, himported⟩
    rw [spell_of_keepsLeaf (keepsLeaf_of_dropsParent hd)]
    exact ⟨fun he => absurd he (leaf_ne_behindParent ht hlast), fun hn => absurd hd hn⟩
  · have hl : ¬m.KeepsLeaf t := by
      rintro (h | h | h)
      · exact hbare h
      · exact hhome h
      · exact himported h
    have hparent := (reaches_of_required ht .withParent hr).resolve_left hl
    rw [spell_of_keepsParent hl hparent hlast]
    exact ⟨fun _ h => himported h.2.2, fun _ => rfl⟩

/-- How a declared type is documented and annotated: what its documented spelling requires is
imported, and the annotation is the same spelling exactly if the type is not imported itself. -/
def Documents (m : ClassModel) (written : String) (documented : Option String)
    (annotated : String) : Prop :=
  ∃ t, TypeName.parse written = .ok t ∧
    (∀ name, t.Requires m.home .withParent name → name ∈ m.imports.names) ∧
    m.lookUp written = .ok annotated ∧
    (documented = some annotated ↔ ¬m.DropsParent t)

end ClassModel

namespace Assembly

theorem typeBehindBar?_return (p : Profile) (op : Operation) (short : Mention → String) :
    (writtenDocBlock p op short).typeBehindBar? "return" =
      some (Source.between '|' ' ' (writtenReturnTag p op.returnType short).description) := by
  rw [writtenDocBlock]
  split <;> rfl

theorem typeBehindBar?_param {p : Profile} {op : Operation} {x : Parameter}
    (hx : op.parameters = [x]) (short : Mention → String) :
    (writtenDocBlock p op short).typeBehindBar? "param" =
      some (Source.between '|' ' ' (short ⟨.plain, p.requestInterface⟩ ++ "|"
        ++ short ⟨.withParent, x.type⟩ ++ " " ++ x.name)) := by
  rw [writtenDocBlock, hx]
  rfl

theorem documented_return {p : Profile} {op : Operation} (h : fault? p op = none)
    (home : String) :
    (writtenDocBlock p op (Mention.short home)).typeBehindBar? "return" =
      some (Mention.short home ⟨.withParent, op.returnType⟩) := by
  have hwrapper := Mention.isDotted_short (r := ⟨.plain, p.resultInterface⟩)
    (isWellFormed_of_mem h (mem_mentions_of_refers .resultInterface)) home
  have htype := Mention.isDotted_short (r := ⟨.withParent, op.returnType⟩)
    (isWellFormed_of_mem h (mem_mentions_of_refers .returnType)) home
  have hbar := hwrapper.not_mem (c := '|') (by decide) (by decide)
  have hs : (writtenReturnTag p op.returnType (Mention.short home)).description.toList =
      (Mention.short home ⟨.plain, p.resultInterface⟩).toList ++ '|' ::
        ([] ++ ((Mention.short home ⟨.withParent, op.returnType⟩).toList ++ [])) := by
    simp [writtenReturnTag]
  rw [typeBehindBar?_return]
  exact congrArg some (Source.between_of_isDotted hs hbar (by simp) htype (by decide) (by decide)
    (.inl rfl))

theorem documented_param {p : Profile} {op : Operation} (h : fault? p op = none)
    {x : Parameter} (hx : op.parameters = [x]) (home : String) :
    (writtenDocBlock p op (Mention.short home)).typeBehindBar? "param" =
      some (Mention.short home ⟨.withParent, x.type⟩) := by
  have hwrapper := Mention.isDotted_short (r := ⟨.plain, p.requestInterface⟩)
    (isWellFormed_of_mem h (mem_mentions_of_refers (.requestInterface (by simp [hx])))) home
  have htype := Mention.isDotted_short (r := ⟨.withParent, x.type⟩)
    (isWellFormed_of_mem h (mem_mentions_of_refers (.parameterType (by simp [hx])))) home
  have hbar := hwrapper.not_mem (c := '|') (by decide) (by decide)
  have hs : (Mention.short home ⟨.plain, p.requestInterface⟩ ++ "|"
        ++ Mention.short home ⟨.withParent, x.type⟩ ++ " " ++ x.name).toList =
      (Mention.short home ⟨.plain, p.requestInterface⟩).toList ++ '|' ::
        ([] ++ ((Mention.short home ⟨.withParent, x.type⟩).toList ++ ' ' :: x.name.toList)) := by
    simp
  rw [typeBehindBar?_param hx]
  exact congrArg some (Source.between_of_isDotted hs hbar (by simp) htype (by decide) (by decide)
    (.inr rfl))

theorem isIdentifier_argument {p : Profile} {op : Operation} (h : fault? p op = none)
    {a : Argument} (ha : a ∈ argumentList p op) : isIdentifier a.name = true :=
  isIdentifier_argumentName? h (argumentName?_of_mem ha)

theorem not_mem_memberOf_name {c : Char} (hc : Unicode.isIdContinue c = false) (home : String)
    (p : Profile) (op : Operation) : c ∉ (memberOf home p op).name.toList :=
  not_mem_of_isIdentifier hc (MemberName.isIdentifier_memberName _ _ _)

theorem not_mem_arguments {p : Profile} {op : Operation} (h : fault? p op = none)
    (m : ClassModel) :
    '>' ∉ (", ".intercalate ("self" ::
      (argumentList p op).map (Source.writtenArgument m))).toList := by
  rw [String.toList_intercalate]
  intro hmem
  rcases Text.mem_intercalate hmem with hmem | ⟨piece, hpiece, hmem⟩
  · revert hmem
    decide
  · obtain ⟨text, htext, rfl⟩ := List.mem_map.1 hpiece
    rcases List.mem_cons.1 htext with rfl | htext
    · revert hmem
      decide
    · obtain ⟨a, ha, rfl⟩ := List.mem_map.1 htext
      have hname := not_mem_of_isIdentifier (c := '>') (by decide) (isIdentifier_argument h ha)
      obtain ⟨form, hr⟩ := argument_mem_mentions ha
      have htype := (m.isDotted_spelled (isWellFormed_of_mem h hr)).not_mem (c := '>') (by decide)
        (by decide)
      simp [Source.writtenArgument, hname, htype] at hmem

theorem returnAnnotation_defLine {p : Profile} {op : Operation} (h : fault? p op = none)
    (home : String) (m : ClassModel) :
    Source.returnAnnotation (Source.defLine m (memberOf home p op)) = m.spelled op.returnType := by
  have htype := m.isDotted_spelled (isWellFormed_of_mem h (returnType_mem_mentions p op))
  have hname := not_mem_memberOf_name (c := '>') (by decide) home p op
  have harguments := not_mem_arguments h m
  have hs : (Source.defLine m (memberOf home p op)).toList =
      (Source.indent ++ "def " ++ (memberOf home p op).name ++ "("
        ++ ", ".intercalate ("self" :: (argumentList p op).map (Source.writtenArgument m))
        ++ ") -").toList ++ '>' :: ([' '] ++ ((m.spelled op.returnType).toList ++ [':'])) := by
    simp [Source.defLine, memberOf]
  refine Source.between_of_isDotted hs ?_ (by simp) htype (by decide) (by decide) (.inr rfl)
  simp only [String.toList_append, List.mem_append, not_or]
  exact ⟨⟨⟨⟨⟨by decide, by decide⟩, hname⟩, by decide⟩, harguments⟩, by decide⟩

theorem argumentAnnotation_defLine {p : Profile} {op : Operation} (h : fault? p op = none)
    {x : Parameter} (hx : op.parameters = [x]) (home : String) (m : ClassModel) :
    Source.argumentAnnotation (Source.defLine m (memberOf home p op)) = m.spelled x.type := by
  have htype := m.isDotted_spelled
    (isWellFormed_of_mem h (mem_mentions_of_refers (.parameterType (x := x) (by simp [hx]))))
  have hname := not_mem_memberOf_name (c := ':') (by decide) home p op
  have hargument := not_mem_of_isIdentifier (c := ':') (by decide) (isIdentifier_of_single h hx)
  have hlist : (memberOf home p op).arguments = [⟨x.name, x.type⟩] := by
    rw [memberOf, argumentList, hx]
  have hs : (Source.defLine m (memberOf home p op)).toList =
      (Source.indent ++ "def " ++ (memberOf home p op).name ++ "(self, " ++ x.name).toList ++ ':' ::
        ([' '] ++ ((m.spelled x.type).toList
          ++ (") -> " ++ m.spelled op.returnType ++ ":").toList)) := by
    rw [Source.defLine, hlist]
    simp [Source.writtenArgument, memberOf]
  refine Source.between_of_isDotted hs ?_ (by simp) htype (by decide) (by decide) (.inr ?_)
  · simp [Source.indent, hname, hargument]
  · simp

end Assembly

open Assembly

theorem required_of_generate {p : Profile} {s : Service} {g : Generated}
    (h : generate p s = .ok g) {op : Operation} (hop : op ∈ s.operations) {form : TypeName.Form}
    {written : String} (hr : Refers p op form written) :
    ∀ name, (TypeName.ofText written).Requires g.model.home form name →
      name ∈ g.model.imports.names := by
  intro name hn
  rw [(place_of_generate h).2] at hn
  exact (mem_imports_of_generate h).2
    ⟨op, hop, form, written, _, hr, parse_of_refers ((eq_of_generate h).1 op hop) hr, hn⟩

theorem documents_of_generate {p : Profile} {s : Service} {g : Generated}
    (h : generate p s = .ok g) {op : Operation} (hop : op ∈ s.operations) {written : String}
    (hr : Refers p op .withParent written) :
    g.model.Documents written (some (Mention.short g.model.home ⟨.withParent, written⟩))
      (g.model.spelled written) := by
  have hw := isWellFormed_of_mem ((eq_of_generate h).1 op hop) (mem_mentions_of_refers hr)
  have hrequired := required_of_generate h hop hr
  refine ⟨_, TypeName.parse_of_wellFormed hw, hrequired, g.model.lookUp_of_wellFormed hw, ?_⟩
  rw [Option.some.injEq, eq_comm]
  exact ClassModel.spell_eq_short_iff (TypeName.ofText_proper hw) hrequired

/-- Every member of a generated client is that of an operation. The type it is annotated to return
is the one its documentation says is returned exactly if this type is not imported itself, and so is
the type of the argument if the operation has one parameter. -/
theorem annotation_documented_iff {p : Profile} {s : Service} {g : Generated}
    (h : generate p s = .ok g) :
    ∀ member ∈ g.model.members.toList, ∃ op ∈ s.operations,
      (assemble p op s.emptyClass).2.members.toList = [member] ∧
      ∃ d signature lines, member.docBlock = some d ∧
        Source.memberLines g.model member = .ok (signature :: lines) ∧
        g.model.Documents member.returnType (d.typeBehindBar? "return")
          (Source.returnAnnotation signature) ∧
        ∀ x, op.parameters = [x] →
          g.model.Documents x.type (d.typeBehindBar? "param")
            (Source.argumentAnnotation signature) := by
  intro member hmem
  have hlines := Source.memberLines_of_emittable g.model
    ((emittable_of_generate h).members member hmem)
  rw [members_of_generate h] at hmem
  obtain ⟨op, hlast, rfl⟩ := List.mem_map.1 hmem
  have hop := (lastNamed_sublist p s.operations).subset hlast
  have hf := (eq_of_generate h).1 op hop
  have hhome := (place_of_generate h).2
  refine ⟨op, hop, ?_, _, _, _, rfl, hlines, ?_, ?_⟩
  · rw [assemble_of_faultless hf]
    exact emptyClass_installed p s op
  · rw [documented_return hf, returnAnnotation_defLine hf, ← hhome]
    exact documents_of_generate h hop .returnType
  · intro x hx
    rw [documented_param hf hx, argumentAnnotation_defLine hf hx, ← hhome]
    exact documents_of_generate h hop (.parameterType (by simp [hx]))

theorem variouslyTyped_documented :
    ∃ g, generate .standard variouslyTyped = .ok g ∧
      ∃ member ∈ g.model.members.toList, member.name = "getUser" ∧
        ∃ d signature lines, member.docBlock = some d ∧
          Source.memberLines g.model member = .ok (signature :: lines) ∧
          d.typeBehindBar? "return" = some (Source.returnAnnotation signature) ∧
          d.typeBehindBar? "param" = some (Source.argumentAnnotation signature) := by
  have hg := generate_of_faultless variouslyTyped_faultless
  have hmem : memberOf "app.client" .standard wrappingOperation ∈
      (assembled .standard variouslyTyped.operations variouslyTyped.emptyClass).members.toList := by
    rw [members_of_generate hg]
    exact List.mem_map_of_mem (by decide)
  obtain ⟨op, hop, halone, d, signature, lines, hd, hlines, hreturn, hparam⟩ :=
    annotation_documented_iff hg _ hmem
  have honly : ∀ o ∈ variouslyTyped.operations,
      nameOf .standard o = nameOf .standard wrappingOperation → o = wrappingOperation := by
    decide
  rw [assemble_of_faultless ((eq_of_generate hg).1 op hop)] at halone
  have hmember := (emptyClass_installed .standard variouslyTyped op).symm.trans halone
  cases honly op hop (congrArg Member.name (List.singleton_inj.1 hmember))
  refine ⟨_, hg, _, hmem, by decide, d, signature, lines, hd, hlines, ?_, ?_⟩
  · obtain ⟨t, ht, -, -, hagree⟩ := hreturn
    have huser : TypeName.parse "..Wrapper.User" = .ok ⟨["Wrapper"], "User"⟩ := by decide
    cases huser.symm.trans ht
    refine hagree.2 fun hd => ?_
    have himported := hd.2.2
    rw [variouslyTyped_names] at himported
    revert himported
    decide
  · obtain ⟨t, ht, -, -, hagree⟩ := hparam _ rfl
    have hkey : TypeName.parse "app.client.types.Key" = .ok ⟨["app", "client", "types"], "Key"⟩ := by
      decide
    cases hkey.symm.trans ht
    refine hagree.2 fun hd => ?_
    have himported := hd.2.2
    rw [variouslyTyped_names] at himported
    revert himported
    decide

def resultTyped : Service where
  className := "ResultClient"
  home := "app.client"
  operations := [⟨{ wireName := "GetResult", returnType := "soapify.types.ResultInterface" },
    by decide⟩]
  className_ok := by decide

theorem resultTyped_annotated_otherwise :
    ∃ g, generate .standard resultTyped = .ok g ∧ "soapify.types" ∈ g.model.imports.names ∧
      ∃ member ∈ g.model.members.toList, ∃ d signature lines, member.docBlock = some d ∧
        Source.memberLines g.model member = .ok (signature :: lines) ∧
        d.typeBehindBar? "return" = some "types.ResultInterface" ∧
        signature = "    def getResult(self) -> ResultInterface:" ∧
        Source.returnAnnotation signature = "ResultInterface" := by
  have hf : fault? .standard resultTyped.operations[0] = none := by decide
  have hg := generate_of_faultless (p := .standard) (s := resultTyped)
    (failure?_eq_none_iff.2 fun op hop => List.mem_singleton.1 hop ▸ hf)
  have hfull : (TypeName.ofText "soapify.types.ResultInterface").full =
      "soapify.types.ResultInterface" := by
    decide
  have himported : "soapify.types.ResultInterface" ∈
      (assembled .standard resultTyped.operations resultTyped.emptyClass).imports.names := by
    decide
  have hspelled : (assembled .standard resultTyped.operations resultTyped.emptyClass).spelled
      "soapify.types.ResultInterface" = "ResultInterface" := by
    apply ClassModel.spell_of_keepsLeaf
    right
    right
    rw [hfull]
    exact himported
  have hmem : memberOf "app.client" .standard resultTyped.operations[0] ∈
      (assembled .standard resultTyped.operations resultTyped.emptyClass).members.toList := by
    rw [members_of_generate hg]
    exact List.mem_map_of_mem (by decide)
  have hlines := Source.memberLines_of_emittable
    (assembled .standard resultTyped.operations resultTyped.emptyClass)
    ((emittable_of_generate hg).members _ hmem)
  have hdocumented := documented_return hf "app.client"
  have hannotated := returnAnnotation_defLine hf "app.client"
    (assembled .standard resultTyped.operations resultTyped.emptyClass)
  refine ⟨_, hg, by decide, _, hmem, _, _, _, rfl, hlines, ?_, ?_, ?_⟩
  · exact hdocumented.trans (congrArg some (by decide))
  · exact congrArg (fun spelled => "    def getResult(self) -> " ++ spelled ++ ":") hspelled
  · exact hannotated.trans hspelled

end ClientGen
