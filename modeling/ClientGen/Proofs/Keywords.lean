import ClientGen.Descriptor
import ClientGen.Proofs.CodeNames
import ClientGen.Proofs.Ambiguity

namespace ClientGen
open Assembly

namespace ClassModel

/-- Where a name stands in the text of a class. -/
inductive Position where
  | future
  | imported
  | className
  | base
  | memberName
  | receiver
  | argument
  | declaredType
  | transport

/-- The names that the text of a class is written with, where they stand. -/
inductive Writes (p : Profile) (m : ClassModel) : Position → String → Prop where
  | future {name : String} (postponed : p.futureAnnotations = true)
    (mem : name ∈ ["__future__", "annotations"]) : Writes p m .future name
  | imported {name segment : String} (mem : name ∈ m.imports.names)
    (shown : segment ∈ TypeName.splitSegments name) : Writes p m .imported segment
  | className : Writes p m .className m.name
  | base {written segment : String} (given : m.base = some written)
    (shown : segment ∈ m.kept (TypeName.ofText written)) : Writes p m .base segment
  | memberName {member : Member} (mem : member ∈ m.members.toList) :
    Writes p m .memberName member.name
  | receiver {member : Member} (mem : member ∈ m.members.toList) : Writes p m .receiver "self"
  | argument {member : Member} {a : Argument} (mem : member ∈ m.members.toList)
    (declared : a ∈ member.arguments) : Writes p m .argument a.name
  | declaredType {member : Member} {written segment : String} (mem : member ∈ m.members.toList)
    (declared : written ∈ member.typeNames) (shown : segment ∈ m.kept (TypeName.ofText written)) :
    Writes p m .declaredType segment
  | transport {member : Member} (mem : member ∈ m.members.toList) :
    Writes p m .transport p.transportMethod

end ClassModel

namespace Assembly

/-- What stands behind the wire name in the body of a member. -/
def behindWireName (p : Profile) (op : Operation) : String :=
  match argumentName? p op with
  | none => ")"
  | some name => ", " ++ name ++ ")"

theorem body_eq (p : Profile) (op : Operation) :
    body p op =
      "return self." ++ p.transportMethod ++ "(" ++ Text.quoted op.wireName ++
        behindWireName p op := by
  rw [body, behindWireName]
  cases argumentName? p op with
  | none => rfl
  | some name => simp only [String.append_assoc]

theorem map_name_argumentList (p : Profile) (op : Operation) :
    (argumentList p op).map Argument.name = (argumentName? p op).toList := by
  rw [argumentList, argumentName?]
  rcases op.parameters with _ | ⟨x, _ | ⟨y, ys⟩⟩ <;> rfl

end Assembly

namespace Source

theorem wordsIn_behindWireName {p : Profile} {op : Operation} (h : fault? p op = none) :
    wordsIn (behindWireName p op) = (argumentName? p op).toList := by
  rw [behindWireName]
  cases hn : argumentName? p op with
  | none => decide
  | some name =>
    have hname := isDotted_of_isIdentifier (isIdentifier_argumentName? h hn)
    dsimp only
    rw [wordsIn_break_end (by decide), wordsIn_break_start (by decide), wordsIn_dotted hname]
    rfl

theorem namesOf_codeLine {p : Profile} {op : Operation} (h : fault? p op = none) (home : String) :
    namesOf (codeLine (memberOf home p op)) =
      "self" :: p.transportMethod :: (memberOf home p op).arguments.map Argument.name := by
  have hcode : codeLine (memberOf home p op) = indent ++ indent ++ body p op := rfl
  have harguments : (memberOf home p op).arguments = argumentList p op := rfl
  have hsegments : (argumentName? p op).toList.flatMap TypeName.splitSegments =
      (argumentName? p op).toList := by
    cases hn : argumentName? p op with
    | none => rfl
    | some name =>
      rw [Option.toList_some, List.flatMap_singleton,
        TypeName.splitSegments_identifier (isIdentifier_argumentName? h hn)]
  rw [hcode, body_eq, namesOf_call p.transportMethod_ok, wordsIn_behindWireName h, hsegments,
    harguments, map_name_argumentList]

theorem codeLine_ne_docstringMark {p : Profile} {op : Operation} (h : fault? p op = none)
    (home : String) : codeLine (memberOf home p op) ≠ docstringMark (indent ++ indent) := by
  intro he
  have hnone : namesOf (docstringMark (indent ++ indent)) = [] := by decide
  rw [← he, namesOf_codeLine h home] at hnone
  cases hnone

end Source

section Generated
variable {p : Profile} {s : Service} {g : Generated}

theorem exists_operation_of_generate (h : generate p s = .ok g) {member : Member}
    (hm : member ∈ g.model.members.toList) :
    ∃ op ∈ s.operations, fault? p op = none ∧ member = memberOf s.home p op := by
  rw [members_of_generate h] at hm
  obtain ⟨op, hlast, rfl⟩ := List.mem_map.1 hm
  have hop := (lastNamed_sublist p s.operations).subset hlast
  exact ⟨op, hop, (eq_of_generate h).1 op hop, rfl⟩

theorem isIdentifier_className (h : generate p s = .ok g) : isIdentifier g.model.name = true := by
  rw [(place_of_generate h).1]
  exact s.className_ok

theorem isParameterName_of_mem_arguments (h : generate p s = .ok g) {member : Member}
    (hm : member ∈ g.model.members.toList) :
    ∀ a ∈ member.arguments, isParameterName a.name = true := by
  obtain ⟨op, -, hf, rfl⟩ := exists_operation_of_generate h hm
  intro a ha
  exact isParameterName_argumentName? hf (argumentName?_of_mem ha)

theorem isIdentifier_of_mem_members (h : generate p s = .ok g) {member : Member}
    (hm : member ∈ g.model.members.toList) :
    isIdentifier member.name = true ∧ ∀ a ∈ member.arguments, isIdentifier a.name = true := by
  refine ⟨?_, fun a ha =>
    isIdentifier_of_isParameterName (isParameterName_of_mem_arguments h hm a ha)⟩
  obtain ⟨op, -, -, rfl⟩ := exists_operation_of_generate h hm
  exact MemberName.isIdentifier_memberName _ _ op.wireName

def ClassModel.memberNames (m : ClassModel) (method : String) (member : Member) : List String :=
  Source.signatureNames m member ++ "self" :: method :: member.arguments.map Argument.name

theorem namesOf_memberLines (h : generate p s = .ok g) {member : Member}
    (hm : member ∈ g.model.members.toList) :
    Source.namesOf (Source.defLine g.model member) ++ Source.namesOf (Source.codeLine member) =
      g.model.memberNames p.transportMethod member := by
  have he := (emittable_of_generate h).members member hm
  obtain ⟨hname, ha⟩ := isIdentifier_of_mem_members h hm
  have hcode : Source.namesOf (Source.codeLine member) =
      "self" :: p.transportMethod :: member.arguments.map Argument.name := by
    obtain ⟨op, -, hf, rfl⟩ := exists_operation_of_generate h hm
    exact Source.namesOf_codeLine hf s.home
  rw [Source.namesOf_defLine hname ha he, hcode, ClassModel.memberNames]

end Generated

namespace Source

theorem flatMap_codeLines_memberTexts {m : ClassModel} {members : List Member}
    (hdef : ∀ x ∈ members, defLine m x ≠ docstringMark (indent ++ indent))
    (hcode : ∀ x ∈ members, codeLine x ≠ docstringMark (indent ++ indent)) (rest : List String) :
    (codeLines false ([""].intercalate (members.map (memberText m)) ++ rest)).flatMap namesOf =
      (members.flatMap fun x => namesOf (defLine m x) ++ namesOf (codeLine x)) ++
        (codeLines false rest).flatMap namesOf := by
  induction members with
  | nil => rfl
  | cons x members ih =>
    have hx := codeLines_memberText (hdef x List.mem_cons_self) (hcode x List.mem_cons_self)
    cases members with
    | nil =>
      rw [List.map_singleton, List.intercalate_singleton, hx]
      simp only [List.flatMap_append, List.flatMap_cons, List.flatMap_nil, List.append_nil]
    | cons y members =>
      have hrest := ih (fun z hz => hdef z (List.mem_cons_of_mem x hz))
        fun z hz => hcode z (List.mem_cons_of_mem x hz)
      have hblank (lines : List String) :
          ("" :: lines).flatMap namesOf = lines.flatMap namesOf := rfl
      rw [List.map_cons, List.map_cons, List.intercalate_cons_cons, ← List.map_cons,
        List.append_assoc, List.append_assoc, hx, List.singleton_append,
        codeLines_cons (by decide), List.flatMap_append, hblank, hrest]
      simp only [List.flatMap_cons, List.flatMap_nil, List.append_nil, List.append_assoc]

end Source

section Generated
variable {p : Profile} {s : Service} {g : Generated}

theorem namesIn_classBody (h : generate p s = .ok g) :
    (Source.codeLines false (Source.classBody g.model ++ [""])).flatMap Source.namesOf =
      g.model.members.toList.flatMap (g.model.memberNames p.transportMethod) := by
  rw [Source.classBody]
  split
  · next hnone =>
    rw [hnone]
    rfl
  · have hdef : ∀ x ∈ g.model.members.toList,
        Source.defLine g.model x ≠ Source.docstringMark (Source.indent ++ Source.indent) := by
      intro x hx
      obtain ⟨hname, ha⟩ := isIdentifier_of_mem_members h hx
      have he := (emittable_of_generate h).members x hx
      exact Source.ne_docstringMark_of_isUnquoted (Source.isUnquoted_defLine hname ha he)
    have hcode : ∀ x ∈ g.model.members.toList,
        Source.codeLine x ≠ Source.docstringMark (Source.indent ++ Source.indent) := by
      intro x hx
      obtain ⟨op, -, hf, rfl⟩ := exists_operation_of_generate h hx
      exact Source.codeLine_ne_docstringMark hf s.home
    have hend : (Source.codeLines false [""]).flatMap Source.namesOf = [] := rfl
    rw [Source.flatMap_codeLines_memberTexts hdef hcode, hend, List.append_nil]
    exact List.flatMap_congr fun x hx => namesOf_memberLines h hx

theorem namesIn_of_generate (h : generate p s = .ok g) :
    Source.namesIn g.code =
      (if p.futureAnnotations then ["__future__", "annotations"] else []) ++
        ((Source.importLines g.model.imports).flatMap Source.namesOf ++
          (g.model.name ::
            (g.model.base.toList.flatMap fun b => TypeName.splitSegments (g.model.spelled b)) ++
            g.model.members.toList.flatMap (g.model.memberNames p.transportMethod))) := by
  have hname := isIdentifier_className h
  have hopening := Source.ne_docstringMark_of_isUnquoted
    (Source.isUnquoted_openingLine hname (emittable_of_generate h))
  have hlines : Text.splitFeeds g.code =
      Source.headLines p.futureAnnotations g.model.imports ++
        Source.openingLine g.model :: (Source.classBody g.model ++ [""]) := by
    rw [(generate_laidOut h).lines, Source.headLines_eq, List.append_assoc]
    rfl
  have hhead := Source.headLine_ne_docstringMark (imports_proper_of_generate h) p.futureAnnotations
  rw [Source.namesIn, hlines, Source.codeLines_append hhead, Source.codeLines_cons hopening,
    List.flatMap_append, List.flatMap_cons, namesIn_classBody h,
    Source.namesOf_openingLine hname (emittable_of_generate h), if_neg Bool.false_ne_true,
    Source.flatMap_namesOf_headLines, List.append_assoc]

theorem splitSegments_spelled (h : generate p s = .ok g) {written : String}
    (hw : written ∈ g.model.typeNames) :
    TypeName.splitSegments (g.model.spelled written) =
      g.model.kept (TypeName.ofText written) := by
  obtain ⟨hwell, hreach⟩ := anchored_of_generate h written hw
  rw [ClassModel.spelled, ClassModel.spell_eq_kept hreach]
  exact TypeName.splitSegments_dotted (ClassModel.kept_ne_nil _ _)
    (ClassModel.isIdentifier_of_mem_kept (TypeName.ofText_proper hwell))

theorem writes_of_mem_memberNames (h : generate p s = .ok g) {member : Member}
    (hm : member ∈ g.model.members.toList) :
    ∀ name ∈ g.model.memberNames p.transportMethod member,
      ∃ position, g.model.Writes p position name := by
  have htype : ∀ written ∈ member.typeNames,
      ∀ segment ∈ TypeName.splitSegments (g.model.spelled written),
        ∃ position, g.model.Writes p position segment := by
    intro written hw segment hs
    rw [splitSegments_spelled h (ClassModel.mem_typeNames_iff.2 (.inr ⟨member, hm, hw⟩))] at hs
    exact ⟨_, .declaredType hm hw hs⟩
  intro name hn
  simp only [ClassModel.memberNames, Source.signatureNames, List.mem_append, List.mem_cons,
    List.mem_flatMap, List.mem_map] at hn
  rcases hn with (rfl | rfl | ⟨a, ha, rfl | hs⟩ | hs) | rfl | rfl | ⟨a, ha, rfl⟩
  · exact ⟨_, .memberName hm⟩
  · exact ⟨_, .receiver hm⟩
  · exact ⟨_, .argument hm ha⟩
  · exact htype _ (List.mem_cons_of_mem _ (List.mem_map_of_mem ha)) name hs
  · exact htype _ List.mem_cons_self name hs
  · exact ⟨_, .receiver hm⟩
  · exact ⟨_, .transport hm⟩
  · exact ⟨_, .argument hm ha⟩

theorem mem_memberNames_of_spelled {m : ClassModel} {member : Member} {written : String}
    (hw : written ∈ member.typeNames) (method : String) :
    ∀ segment ∈ TypeName.splitSegments (m.spelled written),
      segment ∈ m.memberNames method member := by
  intro segment hs
  refine List.mem_append_left _ (List.mem_cons_of_mem _ (List.mem_cons_of_mem _ ?_))
  rcases List.mem_cons.1 hw with rfl | hw
  · exact List.mem_append_right _ hs
  · obtain ⟨a, ha, rfl⟩ := List.mem_map.1 hw
    exact List.mem_append_left _ (List.mem_flatMap.2 ⟨a, ha, List.mem_cons_of_mem _ hs⟩)

/-- The code of a generated client is written with the names of its class and no others. -/
theorem mem_namesIn_iff (h : generate p s = .ok g) {name : String} :
    name ∈ Source.namesIn g.code ↔ ∃ position, g.model.Writes p position name := by
  have himports : name ∈ (Source.importLines g.model.imports).flatMap Source.namesOf ↔ _ :=
    Source.mem_namesOf_importLines_iff (imports_proper_of_generate h)
  have hmember : ∀ member ∈ g.model.members.toList,
      name ∈ g.model.memberNames p.transportMethod member →
        name ∈ g.model.members.toList.flatMap (g.model.memberNames p.transportMethod) :=
    fun member hm hn => List.mem_flatMap.2 ⟨member, hm, hn⟩
  rw [namesIn_of_generate h, List.mem_append, List.mem_append, List.mem_append, List.mem_cons,
    himports]
  constructor
  · rintro (hfuture | ⟨imported, hi, hs⟩ | (rfl | hbase) | hm)
    · split at hfuture
      · next hp => exact ⟨_, .future hp hfuture⟩
      · cases hfuture
    · exact ⟨_, .imported hi hs⟩
    · exact ⟨_, .className⟩
    · obtain ⟨base, hb, hs⟩ := List.mem_flatMap.1 hbase
      have hgiven : g.model.base = some base := Option.mem_toList.1 hb
      rw [splitSegments_spelled h (ClassModel.mem_typeNames_iff.2 (.inl hgiven))] at hs
      exact ⟨_, .base hgiven hs⟩
    · obtain ⟨member, hm, hn⟩ := List.mem_flatMap.1 hm
      exact writes_of_mem_memberNames h hm name hn
  · rintro ⟨position, hw⟩
    cases hw with
    | future postponed mem =>
      rw [if_pos postponed]
      exact .inl mem
    | imported mem shown => exact .inr (.inl ⟨_, mem, shown⟩)
    | className => exact .inr (.inr (.inl (.inl rfl)))
    | base given shown =>
      rw [← splitSegments_spelled h (ClassModel.mem_typeNames_iff.2 (.inl given))] at shown
      exact .inr (.inr (.inl (.inr (List.mem_flatMap.2 ⟨_, Option.mem_toList.2 given, shown⟩))))
    | @declaredType member written _ mem declared shown =>
      rw [← splitSegments_spelled h (ClassModel.mem_typeNames_iff.2 (.inr ⟨member, mem, declared⟩))]
        at shown
      exact .inr (.inr (.inr (hmember member mem (mem_memberNames_of_spelled declared _ _ shown))))
    | memberName mem => exact .inr (.inr (.inr (hmember _ mem List.mem_cons_self)))
    | receiver mem =>
      exact .inr (.inr (.inr (hmember _ mem (List.mem_cons_of_mem _ List.mem_cons_self))))
    | argument mem declared =>
      refine .inr (.inr (.inr (hmember _ mem (List.mem_append_right _ ?_))))
      exact List.mem_cons_of_mem _ (List.mem_cons_of_mem _ (List.mem_map_of_mem declared))
    | transport mem =>
      refine .inr (.inr (.inr (hmember _ mem (List.mem_append_right _ ?_))))
      exact List.mem_cons_of_mem _ List.mem_cons_self

theorem isIdentifier_of_mem_kept (h : generate p s = .ok g) {written : String}
    (hw : written ∈ g.model.typeNames) :
    ∀ segment ∈ g.model.kept (TypeName.ofText written), isIdentifier segment = true :=
  ClassModel.isIdentifier_of_mem_kept (TypeName.ofText_proper (anchored_of_generate h _ hw).1)

theorem isIdentifier_of_writes (h : generate p s = .ok g) {position : ClassModel.Position}
    {name : String} (hw : g.model.Writes p position name) : isIdentifier name = true := by
  cases hw with
  | future _ mem =>
    have hall : ∀ word ∈ ["__future__", "annotations"], isIdentifier word = true := by decide
    exact hall name mem
  | imported mem shown =>
    obtain ⟨u, hu, rfl⟩ := imports_proper_of_generate h _ mem
    rw [Source.splitSegments_full hu] at shown
    exact hu name shown
  | className => exact isIdentifier_className h
  | base given shown =>
    exact isIdentifier_of_mem_kept h (ClassModel.mem_typeNames_iff.2 (.inl given)) name shown
  | memberName mem => exact (isIdentifier_of_mem_members h mem).1
  | receiver => decide
  | argument mem declared => exact (isIdentifier_of_mem_members h mem).2 _ declared
  | declaredType mem declared shown =>
    exact isIdentifier_of_mem_kept h (ClassModel.mem_typeNames_iff.2 (.inr ⟨_, mem, declared⟩)) name
      shown
  | transport => exact p.transportMethod_ok

theorem isKeyword_of_mem_members (h : generate p s = .ok g) {member : Member}
    (hm : member ∈ g.model.members.toList) :
    isKeyword member.name = false ∧ ∀ a ∈ member.arguments, isKeyword a.name = false := by
  constructor
  · obtain ⟨op, -, -, rfl⟩ := exists_operation_of_generate h hm
    exact MemberName.isKeyword_memberName _ _ op.wireName
  · intro a ha
    obtain ⟨-, hkeyword, -⟩ := isParameterName_iff.1 (isParameterName_of_mem_arguments h hm a ha)
    exact hkeyword

theorem refers_of_mem_typeNames (h : generate p s = .ok g) {written : String}
    (hw : written ∈ g.model.typeNames) :
    ∃ op ∈ s.operations, ∃ form, Refers p op form written := by
  rcases ClassModel.mem_typeNames_iff.1 hw with hb | ⟨member, hm, hw⟩
  · rw [base_of_generate h] at hb
    split at hb
    · cases hb
    · next hne =>
      cases hb
      obtain ⟨op, hop⟩ := List.exists_mem_of_ne_nil _ hne
      exact ⟨op, hop, _, .clientBase⟩
  · obtain ⟨op, hop, -, rfl⟩ := exists_operation_of_generate h hm
    rcases List.mem_cons.1 hw with rfl | hw
    · exact ⟨op, hop, _, .returnType⟩
    · obtain ⟨a, ha, rfl⟩ := List.mem_map.1 hw
      obtain ⟨form, hr⟩ := argument_mem_mentions ha
      exact ⟨op, hop, _, refers_of_mem_mentions hr⟩

theorem mem_segments_of_mem_kept {m : ClassModel} {t : TypeName} :
    ∀ segment ∈ m.kept t, segment ∈ t.segments := by
  intro segment hs
  have hleaf : t.leaf ∈ t.segments := List.mem_append_right _ List.mem_cons_self
  by_cases hk : m.KeepsLeaf t
  · rw [ClassModel.kept_of_keepsLeaf hk] at hs
    rwa [List.mem_singleton.1 hs]
  · rw [ClassModel.kept_of_not_keepsLeaf hk] at hs
    rcases List.mem_cons.1 hs with rfl | hs
    · exact List.mem_append_left _
        (List.mem_of_getLast? (ClassModel.qualifiers_of_not_keepsLeaf hk))
    · rwa [List.mem_singleton.1 hs]

theorem mem_segments_of_requires {home name : String} {t : TypeName} {form : TypeName.Form}
    (ht : t.IsProper) (h : t.Requires home form name) :
    ∀ segment ∈ TypeName.splitSegments name, segment ∈ t.segments := by
  intro segment hs
  cases h with
  | full => rwa [Source.splitSegments_full ht] at hs
  | space qualified =>
    rw [TypeName.space, TypeName.splitSegments_dotted
      (TypeName.two_le_length_segments_iff.1 qualified) ht.qualifiers] at hs
    exact List.mem_append_left _ hs

/-- Whether a word is a segment of a type name that an operation refers to. -/
def IsTypeSegment (p : Profile) (s : Service) (word : String) : Prop :=
  ∃ op ∈ s.operations, ∃ form written t, Refers p op form written ∧
    TypeName.parse written = .ok t ∧ word ∈ t.segments

theorem isTypeSegment_of_mem_kept (h : generate p s = .ok g) {written : String}
    (hw : written ∈ g.model.typeNames) :
    ∀ segment ∈ g.model.kept (TypeName.ofText written), IsTypeSegment p s segment := by
  intro segment hs
  obtain ⟨op, hop, form, hr⟩ := refers_of_mem_typeNames h hw
  exact ⟨op, hop, form, _, _, hr, parse_of_refers ((eq_of_generate h).1 op hop) hr,
    mem_segments_of_mem_kept segment hs⟩

theorem isTypeSegment_of_mem_imports (h : generate p s = .ok g) {name : String}
    (hn : name ∈ g.model.imports.names) :
    ∀ segment ∈ TypeName.splitSegments name, IsTypeSegment p s segment := by
  intro segment hs
  obtain ⟨op, hop, form, written, t, hr, ht, hrequires⟩ := (mem_imports_of_generate h).1 hn
  have hproper : t.IsProper := by
    have hwell := isWellFormed_of_mem ((eq_of_generate h).1 op hop) (mem_mentions_of_refers hr)
    rw [TypeName.parse_of_wellFormed hwell] at ht
    cases ht
    exact TypeName.ofText_proper hwell
  exact ⟨op, hop, form, written, t, hr, ht, mem_segments_of_requires hproper hrequires segment hs⟩

/-- A keyword stands as the class, as the transport method, or where types do. -/
theorem source_of_keyword (h : generate p s = .ok g) {position : ClassModel.Position} {name : String}
    (hw : g.model.Writes p position name) (hk : isKeyword name = true) :
    position = .className ∧ name = s.className ∨
    position = .transport ∧ name = p.transportMethod ∨
    (position = .imported ∨ position = .base ∨ position = .declaredType) ∧
      IsTypeSegment p s name := by
  cases hw with
  | future _ mem =>
    have hall : ∀ word ∈ ["__future__", "annotations"], isKeyword word = false := by decide
    rw [hall name mem] at hk
    cases hk
  | imported mem shown =>
    exact .inr (.inr ⟨.inl rfl, isTypeSegment_of_mem_imports h mem name shown⟩)
  | className => exact .inl ⟨rfl, (place_of_generate h).1⟩
  | base given shown =>
    have hmem := ClassModel.mem_typeNames_iff.2 (.inl given)
    exact .inr (.inr ⟨.inr (.inl rfl), isTypeSegment_of_mem_kept h hmem name shown⟩)
  | memberName mem =>
    rw [(isKeyword_of_mem_members h mem).1] at hk
    cases hk
  | receiver => exact absurd hk (by decide)
  | argument mem declared =>
    rw [(isKeyword_of_mem_members h mem).2 _ declared] at hk
    cases hk
  | declaredType mem declared shown =>
    have hmem := ClassModel.mem_typeNames_iff.2 (.inr ⟨_, mem, declared⟩)
    exact .inr (.inr ⟨.inr (.inr rfl), isTypeSegment_of_mem_kept h hmem name shown⟩)
  | transport => exact .inr (.inl ⟨rfl, rfl⟩)

end Generated

/-- The code of a generated client is written with the names of its class and no others. Each is an
identifier, and those of members and arguments are no keywords, whatever wire names and parameters
are called. Where a keyword stands, that is the class, the transport method, or an import, the base
or an annotation; it then is a segment of the name of a type that an operation refers to. -/
theorem names_usable {p : Profile} {s : Service} {g : Generated} (h : generate p s = .ok g) :
    (∀ name, name ∈ Source.namesIn g.code ↔ ∃ position, g.model.Writes p position name) ∧
    (∀ position name, g.model.Writes p position name →
      isIdentifier name = true ∧
      (isKeyword name = true →
        position = .className ∧ name = s.className ∨
        position = .transport ∧ name = p.transportMethod ∨
        (position = .imported ∨ position = .base ∨ position = .declaredType) ∧
          IsTypeSegment p s name)) ∧
    ∀ member ∈ g.model.members.toList, isKeyword member.name = false ∧
      ∀ a ∈ member.arguments, isKeyword a.name = false :=
  ⟨fun _ => mem_namesIn_iff h,
    fun _ _ hw => ⟨isIdentifier_of_writes h hw, source_of_keyword h hw⟩,
    fun _ hm => isKeyword_of_mem_members h hm⟩

theorem variouslyTyped_usable :
    ∃ g, generate .standard variouslyTyped = .ok g ∧ "Wrapper" ∈ Source.namesIn g.code ∧
      ∀ name ∈ Source.namesIn g.code, isIdentifier name = true ∧ isKeyword name = false := by
  have hg := generate_of_faultless variouslyTyped_faultless
  obtain ⟨hwrites, husable, -⟩ := names_usable hg
  have himported : "Wrapper" ∈ (assembled .standard variouslyTyped.operations
      variouslyTyped.emptyClass).imports.names := by
    rw [variouslyTyped_names]
    decide
  have htypes : ∀ op ∈ variouslyTyped.operations, ∀ r ∈ mentions .standard op,
      ∀ segment ∈ (TypeName.ofText r.name).segments, isKeyword segment = false := by
    decide +kernel
  refine ⟨_, hg, (hwrites "Wrapper").2 ⟨_, .imported himported (by decide)⟩, ?_⟩
  intro name hn
  obtain ⟨position, hw⟩ := (hwrites name).1 hn
  obtain ⟨hidentifier, hsource⟩ := husable position name hw
  refine ⟨hidentifier, Bool.eq_false_iff.2 fun hk => ?_⟩
  rcases hsource hk with ⟨-, rfl⟩ | ⟨-, rfl⟩ | ⟨-, op, hop, form, written, t, hr, ht, hs⟩
  · exact absurd hk (by decide)
  · exact absurd hk (by decide)
  · rw [parse_of_refers ((eq_of_generate hg).1 op hop) hr] at ht
    cases ht
    rw [htypes op hop _ (mem_mentions_of_refers hr) name hs] at hk
    cases hk

def voidReturning : List (String × Datum) :=
  [("class_name", .text "PingClient"),
    ("methods", .list [.object [("wire_name", .text "Ping"), ("return_type", .text "None")]])]

/-- The type of what an operation without result returns is written, and it is a keyword. -/
theorem voidReturning_keyword :
    ∃ d g, (Descriptor.entries voidReturning).load = .ok d ∧
      generate d.profile d.service = .ok g ∧ "None" ∈ Source.namesIn g.code ∧
      isKeyword "None" = true := by
  let d : Document := {
    service := {
      className := "PingClient"
      operations := [⟨{ wireName := "Ping", returnType := "None" }, by decide⟩]
      className_ok := by decide }
    profile := .standard }
  have hload : (Descriptor.entries voidReturning).load = .ok d := rfl
  have hg := generate_of_faultless (p := d.profile) (s := d.service) (by decide)
  have hmem : memberOf "" d.profile ⟨{ wireName := "Ping", returnType := "None" }, by decide⟩ ∈
      (assembled d.profile d.service.operations d.service.emptyClass).members.toList := by
    decide
  have hshown : "None" ∈ (assembled d.profile d.service.operations d.service.emptyClass).kept
      (TypeName.ofText "None") := by
    decide
  have hwritten := (mem_namesIn_iff hg).2 ⟨_, .declaredType hmem List.mem_cons_self hshown⟩
  exact ⟨d, _, hload, hg, hwritten, by decide⟩

end ClientGen
