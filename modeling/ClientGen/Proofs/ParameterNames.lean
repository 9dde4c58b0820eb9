import ClientGen.Proofs.Tidy

namespace ClientGen
open Text Assembly

/-- Whether a parameter is called by an identifier that is no keyword. -/
def Parameter.IsUsable (x : Parameter) : Prop :=
  isIdentifier x.name = true ∧ isKeyword x.name = false

instance (x : Parameter) : Decidable x.IsUsable :=
  inferInstanceAs (Decidable (_ ∧ _))

def Operation.renamed (op : Operation) (name : Parameter → String) : Operation :=
  { op with parameters := op.parameters.map fun x => { x with name := name x } }

namespace Assembly

theorem isUsable_of_isParameterName {x : Parameter} (h : isParameterName x.name = true) :
    x.IsUsable := by
  obtain ⟨hidentifier, hkeyword, -⟩ := isParameterName_iff.1 h
  exact ⟨hidentifier, hkeyword⟩

theorem exists_of_two_le_length {xs : List Parameter} (h : 2 ≤ xs.length) :
    ∃ x y ys, xs = x :: y :: ys := by
  match xs, h with
  | x :: y :: ys, _ => exact ⟨x, y, ys, rfl⟩

theorem isUsable_of_length_le_one {p : Profile} {op : Operation} (h : fault? p op = none)
    (hl : op.parameters.length ≤ 1) : ∀ x ∈ op.parameters, x.IsUsable := by
  intro x hx
  cases hp : op.parameters with
  | nil =>
    rw [hp] at hx
    cases hx
  | cons y ys =>
    rw [hp] at hx hl
    have hys : ys = [] := List.length_eq_zero_iff.1 (Nat.le_zero.1 (Nat.le_of_succ_le_succ hl))
    rw [hys] at hx hp
    cases List.mem_singleton.1 hx
    exact isUsable_of_isParameterName (isParameterName_of_single h hp)

/-- The details of packed parameters, written with given short names. -/
def packedDetails (short : Mention → String) (xs : List Parameter) : String :=
  joinLines (packedHeading :: "" :: xs.map (writtenParameterLine short))

theorem details_memberOf (home : String) (p : Profile) {op : Operation}
    (h : 2 ≤ op.parameters.length) :
    (memberOf home p op).docBlock.bind DocBlock.details =
      some (packedDetails (Mention.short home) op.parameters) := by
  obtain ⟨x, y, ys, hx⟩ := exists_of_two_le_length h
  simp only [memberOf, writtenDocBlock, hx, Option.bind_some, packedDetails]

theorem writtenParameterLine_ne_empty (short : Mention → String) (x : Parameter) :
    writtenParameterLine short x ≠ "" := by
  intro he
  have hl := congrArg String.toList he
  simp [writtenParameterLine] at hl

theorem parameter_mem_docMentions (p : Profile) {op : Operation} (h : 2 ≤ op.parameters.length)
    {x : Parameter} (hx : x ∈ op.parameters) : ⟨.withParent, x.type⟩ ∈ docMentions p op := by
  obtain ⟨y, z, zs, he⟩ := exists_of_two_le_length h
  rw [he] at hx
  simp only [docMentions, he]
  exact List.mem_append_left _ (List.mem_append_left _
    (List.mem_map_of_mem (f := fun x : Parameter => Mention.mk .withParent x.type) hx))

/-- Packed parameters fill a line each exactly if none of their names breaks a line. -/
theorem linesOf_packedDetails_iff {p : Profile} {op : Operation} (h : fault? p op = none)
    (home : String) (hl : 2 ≤ op.parameters.length) :
    linesOf (packedDetails (Mention.short home) op.parameters) =
        packedHeading :: "" :: op.parameters.map (writtenParameterLine (Mention.short home)) ↔
      ∀ x ∈ op.parameters, IsLine x.name := by
  constructor
  · intro hlines x hx c hc
    have hmem : writtenParameterLine (Mention.short home) x ∈
        linesOf (packedDetails (Mention.short home) op.parameters) := by
      rw [hlines]
      exact List.mem_cons_of_mem _ (List.mem_cons_of_mem _ (List.mem_map_of_mem hx))
    apply isLine_of_mem_linesOf hmem
    rw [writtenParameterLine, String.toList_append]
    exact List.mem_append_right _ hc
  · intro hnames
    apply linesOf_joinLines
    · intro line hline
      rcases List.mem_cons.1 hline with rfl | hline
      · decide
      rcases List.mem_cons.1 hline with rfl | hline
      · decide
      obtain ⟨x, hx, rfl⟩ := List.mem_map.1 hline
      have hshort := isLine_short_of_mem h home _ (parameter_mem_docMentions p hl hx)
      exact (hshort.append (by decide)).append (hnames x hx)
    · obtain ⟨x, y, ys, hx⟩ := exists_of_two_le_length hl
      rw [hx, List.map_cons, List.getLast?_cons_cons, List.getLast?_cons_cons, ← List.map_cons,
        List.getLast?_map]
      intro he
      obtain ⟨z, -, hz⟩ := Option.map_eq_some_iff.1 he
      exact writtenParameterLine_ne_empty _ z hz

theorem fault?_renamed (p : Profile) {op : Operation} (h : 2 ≤ op.parameters.length)
    (name : Parameter → String) : fault? p (op.renamed name) = fault? p op := by
  obtain ⟨x, y, ys, hx⟩ := exists_of_two_le_length h
  have hdoc : docMentions p (op.renamed name) = docMentions p op := by
    simp [docMentions, Operation.renamed, hx]
  have hargs : argumentFault? (op.renamed name) = argumentFault? op := by
    simp [argumentFault?, Operation.renamed, hx]
  rw [fault?, hdoc, hargs, fault?]

end Assembly

/-- Whether the member for an operation lists its parameters: its details read as the heading, an
empty line, and one line for each parameter, with its type as it is shortened and its name. -/
def ClassModel.ListsParameters (m : ClassModel) (p : Profile) (op : Operation) : Prop :=
  ∃ member details, m.members.find? (nameOf p op) = some member ∧
    member.docBlock.bind DocBlock.details = some details ∧
    linesOf details =
      packedHeading :: "" :: op.parameters.map (writtenParameterLine (Mention.short m.home))

theorem ClassModel.installed_listsParameters_iff {p : Profile} {op : Operation}
    (h : fault? p op = none) (m : ClassModel) (hl : 2 ≤ op.parameters.length) :
    (installed p op m).ListsParameters p op ↔ ∀ x ∈ op.parameters, IsLine x.name := by
  have hmem : memberOf m.home p op ∈ (installed p op m).members.toList := by
    rw [installed_toList]
    exact List.mem_append_right _ List.mem_cons_self
  have hfind : (installed p op m).members.find? (nameOf p op) = some (memberOf m.home p op) :=
    Members.find?_of_mem hmem
  rw [← linesOf_packedDetails_iff h m.home hl]
  constructor
  · rintro ⟨member, details, hm, hd, hlines⟩
    rw [hfind, Option.some.injEq] at hm
    rw [← hm, details_memberOf m.home p hl, Option.some.injEq] at hd
    rw [hd]
    exact hlines
  · intro hlines
    exact ⟨_, _, hfind, details_memberOf m.home p hl, hlines⟩

/-- An operation that can be assembled has usable parameter names, and lists its parameters if there
are several, exactly if it has one parameter at most or all names are usable. Several parameters are
listed exactly if no name breaks a line, and assembling goes through whatever they are called. -/
theorem parameters_usable_iff {p : Profile} {op : Operation} {m m' : ClassModel}
    (h : assemble p op m = (.ok (), m')) :
    (((∀ x ∈ op.parameters, x.IsUsable) ∧
        (2 ≤ op.parameters.length → m'.ListsParameters p op)) ↔
      op.parameters.length ≤ 1 ∨ ∀ x ∈ op.parameters, x.IsUsable) ∧
    (2 ≤ op.parameters.length →
      (m'.ListsParameters p op ↔ ∀ x ∈ op.parameters, IsLine x.name) ∧
      ∀ name, ∃ m'', assemble p (op.renamed name) m = (.ok (), m'')) := by
  have hf : fault? p op = none := assemble_alone_ok_iff.1 (congrArg Prod.fst h)
  rw [assemble_of_faultless hf] at h
  cases h
  constructor
  · constructor
    · exact fun h => .inr h.1
    · intro h
      have husable : ∀ x ∈ op.parameters, x.IsUsable :=
        h.elim (isUsable_of_length_le_one hf) id
      refine ⟨husable, fun hl => (ClassModel.installed_listsParameters_iff hf m hl).2 ?_⟩
      exact fun x hx => isLine_of_isIdentifier (husable x hx).1
  · intro hl
    refine ⟨ClassModel.installed_listsParameters_iff hf m hl, fun name => ?_⟩
    have hr : fault? p (op.renamed name) = none := (fault?_renamed p hl name).trans hf
    exact ⟨_, assemble_of_faultless hr m⟩

def sending : Operation :=
  ⟨{ wireName := "Send", parameters := [{ name := "to", type := "app.Address" },
     { name := "text", type := "str" }] }, by decide⟩

theorem sending_usable : ∃ m', assemble .standard sending { name := "C" } = (.ok (), m') ∧
    m'.ListsParameters .standard sending := by
  have hf : fault? .standard sending = none := by decide +kernel
  have ha := assemble_of_faultless hf { name := "C" }
  exact ⟨_, ha, ((parameters_usable_iff ha).1.2 (.inr (by decide))).2 (by decide)⟩

def misnamed : Operation :=
  ⟨{ wireName := "Pack", parameters := [{ name := "class", type := "int" },
     { name := "a\nint b", type := "int" }] }, by decide⟩

/-- Parameters of any name are packed, and listed in lines that are none of theirs. -/
theorem misnamed_accepted : ∃ m' member, assemble .standard misnamed { name := "C" } = (.ok (), m') ∧
    m'.members.find? "pack" = some member ∧
    (member.docBlock.bind DocBlock.details).map linesOf =
      some [packedHeading, "", "int class", "int a", "int b"] ∧
    ¬∀ x ∈ misnamed.parameters, x.IsUsable := by
  have hf : fault? .standard misnamed = none := by decide +kernel
  refine ⟨_, _, assemble_of_faultless hf { name := "C" }, rfl, ?_, ?_⟩
  · decide +kernel
  · decide

end ClientGen
