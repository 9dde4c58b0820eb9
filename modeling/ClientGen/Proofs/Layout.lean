import ClientGen.Proofs.Docstring
import ClientGen.Proofs.Tidy

namespace ClientGen
open Text

namespace Source

theorem isLine_of_mem_paragraph {lines : String → List String} {text : Option String}
    (h : ∀ s, text = some s → ∀ line ∈ lines s, IsLine line) :
    ∀ line ∈ paragraph lines text, IsLine line := by
  intro line hline
  cases text with
  | none => cases hline
  | some s =>
    rw [paragraph] at hline
    split at hline
    · cases hline
    · rcases List.mem_append.1 hline with hline | hline
      · exact h s rfl line hline
      · cases List.mem_singleton.1 hline
        decide

theorem isLine_of_mem_docLines {d : DocBlock} (h : d.IsTidy) :
    ∀ line ∈ docLines d, IsLine line := by
  intro line hline
  rw [docLines, dropEmptyEnd, List.mem_reverse] at hline
  have hmem := List.mem_reverse.1 ((List.dropWhile_sublist _).mem hline)
  rcases List.mem_append.1 hmem with hmem | hmem
  · rcases List.mem_append.1 hmem with hmem | hmem
    · refine isLine_of_mem_paragraph (fun s hs x hx => ?_) line hmem
      cases List.mem_singleton.1 hx
      exact h.summary s hs
    · exact isLine_of_mem_paragraph (fun s _ x hx => isLine_of_mem_linesOf hx) line hmem
  · obtain ⟨t, ht, rfl⟩ := List.mem_map.1 hmem
    obtain ⟨hname, hdescription⟩ := h.tags t ht
    have hat : IsLine ("@" ++ t.name) := IsLine.append (by decide) hname
    exact ((hat.append (by decide)).append hdescription).trimmedEnd

theorem isLine_escaped {line : String} (h : IsLine line) : IsLine (escaped line) := by
  intro c hc
  rw [escaped, String.toList_ofList] at hc
  rcases mem_escapeDocstring hc with rfl | hc
  · decide
  · exact h c hc

theorem isLine_indented {line : String} (h : IsLine line) :
    IsLine (indented (indent ++ indent) line) := by
  rw [indented]
  split
  · decide
  · exact IsLine.append (by decide) h

theorem isLine_of_mem_docstringLines {d : DocBlock} (h : d.IsTidy) :
    ∀ line ∈ docstringLines d, IsLine line := by
  intro line hline
  obtain ⟨x, hx, rfl⟩ := List.mem_map.1 hline
  exact isLine_indented (isLine_escaped (isLine_of_mem_docLines h x hx))

def signatureMarks : List String :=
  ["    def ", "(", "self", ", ", ": ", ") -> ", ":"]

def openingMarks : List String :=
  ["class ", "(", "):", ":"]

theorem forall_mem_defLine {q : Char → Prop} {m : ClassModel} {member : Member}
    (hfixed : ∀ s ∈ signatureMarks, ∀ c ∈ s.toList, q c)
    (hname : ∀ c ∈ member.name.toList, q c)
    (hnames : ∀ a ∈ member.arguments, ∀ c ∈ a.name.toList, q c)
    (htypes : ∀ a ∈ member.arguments, ∀ c ∈ (m.spelled a.type).toList, q c)
    (hreturned : ∀ c ∈ (m.spelled member.returnType).toList, q c) :
    ∀ c ∈ (defLine m member).toList, q c := by
  simp only [signatureMarks, List.forall_mem_cons] at hfixed
  obtain ⟨hdef, hopen, hself, hcomma, hcolon, harrow, hend, -⟩ := hfixed
  have harguments : ∀ a ∈ "self" :: member.arguments.map (writtenArgument m),
      ∀ c ∈ a.toList, q c := by
    intro a ha
    rcases List.mem_cons.1 ha with rfl | ha
    · exact hself
    · obtain ⟨x, hx, rfl⟩ := List.mem_map.1 ha
      exact forall_mem_append (forall_mem_append (hnames x hx) hcolon) (htypes x hx)
  have hhead := forall_mem_append (forall_mem_append hdef hname) hopen
  have hlist := forall_mem_append hhead (forall_mem_intercalate hcomma harguments)
  exact forall_mem_append (forall_mem_append (forall_mem_append hlist harrow) hreturned) hend

theorem forall_mem_openingLine {q : Char → Prop} {m : ClassModel}
    (hfixed : ∀ s ∈ openingMarks, ∀ c ∈ s.toList, q c)
    (hname : ∀ c ∈ m.name.toList, q c)
    (hbase : ∀ base, m.base = some base → ∀ c ∈ (m.spelled base).toList, q c) :
    ∀ c ∈ (openingLine m).toList, q c := by
  simp only [openingMarks, List.forall_mem_cons] at hfixed
  obtain ⟨hclass, hopen, hclose, hend, -⟩ := hfixed
  have hhead := forall_mem_append hclass hname
  rw [openingLine]
  split
  · exact forall_mem_append hhead hend
  · next base hb =>
    exact forall_mem_append (forall_mem_append (forall_mem_append hhead hopen) (hbase base hb)) hclose

theorem isLine_defLine {m : ClassModel} {member : Member} (ht : member.IsTidy)
    (he : member.IsEmittable) : IsLine (defLine m member) :=
  forall_mem_defLine (show ∀ s ∈ signatureMarks, IsLine s by decide) ht.name ht.argumentNames
    (fun a ha => (m.isDotted_spelled (he.arguments a ha)).isLine)
    (m.isDotted_spelled he.returnType).isLine

theorem isLine_openingLine {m : ClassModel} (ht : m.IsTidy) (he : m.IsEmittable) :
    IsLine (openingLine m) :=
  forall_mem_openingLine (show ∀ s ∈ openingMarks, IsLine s by decide) ht.name fun base hb =>
    (m.isDotted_spelled (he.base base hb)).isLine

def codeLine (member : Member) : String :=
  indent ++ indent ++ member.body

def documentation (member : Member) : DocBlock :=
  member.docBlock.getD {}

/-- The lines of a member that is documented and has one line of code. -/
def memberText (m : ClassModel) (member : Member) : List String :=
  defLine m member :: docstringMark (indent ++ indent) :: docstringLines (documentation member)
    ++ [docstringMark (indent ++ indent), codeLine member]

theorem writtenMember_of_tidy {m : ClassModel} {member : Member} (h : member.IsTidy) :
    writtenMember m member = memberText m member := by
  obtain ⟨d, hd, -⟩ := h.documented
  obtain ⟨cs, c, hc, -⟩ := h.body_ends
  have hne : member.body ≠ "" := by
    intro he
    rw [he] at hc
    exact absurd hc (by simp)
  have hcode : indented (indent ++ indent) member.body = codeLine member :=
    if_neg fun he => hne (eq_of_beq he)
  rw [writtenMember, linesOf_of_isLine hne h.body, List.map_singleton, hcode, memberText,
    documentation, hd]
  simp only [docstring, Option.getD_some, List.cons_append, List.append_assoc, List.nil_append]

theorem isLine_of_mem_memberText {m : ClassModel} {member : Member} (ht : member.IsTidy)
    (he : member.IsEmittable) : ∀ line ∈ memberText m member, IsLine line := by
  have hmark : IsLine (docstringMark (indent ++ indent)) := by decide
  intro line hline
  rcases List.mem_append.1 hline with hline | hline
  · rcases List.mem_cons.1 hline with rfl | hline
    · exact isLine_defLine ht he
    · rcases List.mem_cons.1 hline with rfl | hline
      · exact hmark
      · obtain ⟨d, hd, htidy⟩ := ht.documented
        rw [documentation, hd, Option.getD_some] at hline
        exact isLine_of_mem_docstringLines htidy line hline
  · rcases List.mem_cons.1 hline with rfl | hline
    · exact hmark
    · cases List.mem_singleton.1 hline
      exact IsLine.append (by decide) ht.body

def classBody (m : ClassModel) : List String :=
  if m.members.toList = [] then [indent ++ "pass"]
  else [""].intercalate (m.members.toList.map (memberText m))

theorem bodyLines_of_tidy {m : ClassModel} (h : m.IsTidy) : bodyLines m = classBody m := by
  have hm : m.members.toList.map (writtenMember m) = m.members.toList.map (memberText m) :=
    List.map_congr_left fun member hmem => writtenMember_of_tidy (h.members member hmem)
  rw [bodyLines, classBody, hm]
  simp only [List.isEmpty_iff]

theorem headLines_eq (futureAnnotations : Bool) (t : ImportTable) :
    headLines futureAnnotations t =
      (if futureAnnotations then ["from __future__ import annotations", ""] else []) ++
        if importLines t = [] then [] else importLines t ++ ["", ""] := by
  rw [headLines]
  cases importLines t with
  | nil => rfl
  | cons line lines => rfl

theorem isLine_of_mem_headLines {futureAnnotations : Bool} {t : ImportTable}
    (h : ∀ name ∈ t.names, IsLine name) : ∀ line ∈ headLines futureAnnotations t, IsLine line := by
  have hfuture : ∀ line ∈ ["from __future__ import annotations", ""], IsLine line := by decide
  have hblank : ∀ line ∈ ["", ""], IsLine line := by decide
  intro line hline
  rw [headLines_eq] at hline
  rcases List.mem_append.1 hline with hline | hline
  · split at hline
    · exact hfuture line hline
    · cases hline
  · split at hline
    · cases hline
    · rcases List.mem_append.1 hline with hline | hline
      · exact isLine_of_mem_importLines h line hline
      · exact hblank line hline

theorem isLine_of_mem_classBody {m : ClassModel} (ht : m.IsTidy) (he : m.IsEmittable) :
    ∀ line ∈ classBody m, IsLine line := by
  intro line hline
  rw [classBody] at hline
  split at hline
  · cases List.mem_singleton.1 hline
    decide
  · rcases mem_intercalate hline with hline | ⟨text, htext, hline⟩
    · cases List.mem_singleton.1 hline
      decide
    · obtain ⟨member, hmem, rfl⟩ := List.mem_map.1 htext
      exact isLine_of_mem_memberText (ht.members member hmem) (he.members member hmem) line hline

theorem isLine_of_mem_moduleLines {futureAnnotations : Bool} {m : ClassModel} (ht : m.IsTidy)
    (he : m.IsEmittable) : ∀ line ∈ moduleLines futureAnnotations m, IsLine line := by
  intro line hline
  rw [moduleLines, bodyLines_of_tidy ht] at hline
  rcases List.mem_append.1 hline with hline | hline
  · exact isLine_of_mem_headLines ht.imports line hline
  · rcases List.mem_cons.1 hline with rfl | hline
    · exact isLine_openingLine ht he
    · exact isLine_of_mem_classBody ht he line hline

/-- The lines above a member of the class, when these members come before it. -/
def linesAbove (futureAnnotations : Bool) (m : ClassModel) (before : List Member) : List String :=
  headLines futureAnnotations m.imports ++
    openingLine m :: before.flatMap fun member => memberText m member ++ [""]

/-- The lines below a member of the class, when these members come after it. -/
def linesBelow (m : ClassModel) (after : List Member) : List String :=
  after.flatMap fun member => "" :: memberText m member

theorem intercalate_append_cons {α : Type} (sep : List α) (before after : List (List α))
    (x : List α) :
    sep.intercalate (before ++ x :: after) =
      before.flatMap (· ++ sep) ++ x ++ after.flatMap (sep ++ ·) := by
  induction before with
  | nil =>
    rw [List.nil_append, List.flatMap_nil, List.nil_append]
    induction after generalizing x with
    | nil => rw [List.intercalate_singleton, List.flatMap_nil, List.append_nil]
    | cons y after ih =>
      rw [List.intercalate_cons_cons, ih, List.flatMap_cons, List.append_assoc, List.append_assoc]
  | cons y before ih =>
    rw [List.cons_append, List.intercalate_cons_of_ne_nil (by simp), ih, List.flatMap_cons]
    simp only [List.append_assoc]

theorem moduleLines_split {futureAnnotations : Bool} {m : ClassModel} (h : m.IsTidy)
    {before after : List Member} {member : Member}
    (hm : m.members.toList = before ++ member :: after) :
    moduleLines futureAnnotations m =
      linesAbove futureAnnotations m before ++ memberText m member ++ linesBelow m after := by
  have hne : m.members.toList ≠ [] := by
    rw [hm]
    exact List.append_ne_nil_of_right_ne_nil before (List.cons_ne_nil member after)
  have hb : classBody m =
      (before.flatMap fun x => memberText m x ++ [""]) ++ memberText m member ++
        linesBelow m after := by
    rw [classBody, if_neg hne, hm, List.map_append, List.map_cons, intercalate_append_cons,
      List.flatMap_map, List.flatMap_map]
    rfl
  rw [moduleLines, bodyLines_of_tidy h, hb, linesAbove]
  simp only [List.append_assoc, List.cons_append]

theorem moduleLines_ne_nil (futureAnnotations : Bool) (m : ClassModel) :
    moduleLines futureAnnotations m ≠ [] :=
  List.append_ne_nil_of_right_ne_nil _ (List.cons_ne_nil (openingLine m) (bodyLines m))

theorem moduleLines_end (futureAnnotations : Bool) {m : ClassModel} (h : m.IsTidy) :
    ∃ lines last, moduleLines futureAnnotations m = lines ++ [last] ∧ EndsVisibly last := by
  cases hm : m.members.toList.getLast? with
  | none =>
    have hl : m.members.toList = [] := List.getLast?_eq_none_iff.1 hm
    refine ⟨headLines futureAnnotations m.imports ++ [openingLine m], indent ++ "pass", ?_,
      [' ', ' ', ' ', ' ', 'p', 'a', 's'], 's', rfl, by decide⟩
    rw [moduleLines, bodyLines_of_tidy h, classBody, if_pos hl, List.append_assoc]
    rfl
  | some member =>
    obtain ⟨before, hb⟩ := List.getLast?_eq_some_iff.1 hm
    have hmem : member ∈ m.members.toList := by
      rw [hb]
      exact List.mem_append_right before List.mem_cons_self
    refine ⟨linesAbove futureAnnotations m before ++ defLine m member ::
      docstringMark (indent ++ indent) :: docstringLines (documentation member) ++
        [docstringMark (indent ++ indent)], codeLine member, ?_,
      (h.members member hmem).body_ends.append _⟩
    rw [moduleLines_split h hb, memberText, linesBelow, List.flatMap_nil]
    simp only [List.append_assoc, List.cons_append, List.nil_append, List.append_nil]

theorem emitted_of_tidy {futureAnnotations : Bool} {m : ClassModel} (h : m.IsTidy) :
    emitted futureAnnotations m = joinLines (moduleLines futureAnnotations m) ++ "\n" := by
  obtain ⟨lines, last, hl, hlast⟩ := moduleLines_end futureAnnotations h
  rw [emitted, hl, trimmedEnd_of_endsVisibly (hlast.joinLines lines)]

/-- The text behind the docstring of a member, when these members come after it. -/
def textBehind (m : ClassModel) (member : Member) (after : List Member) : List Char :=
  '\n' :: feedLines (codeLine member :: linesBelow m after)

theorem toList_emitted {futureAnnotations : Bool} {m : ClassModel} (h : m.IsTidy)
    {before after : List Member} {member : Member}
    (hm : m.members.toList = before ++ member :: after) :
    (emitted futureAnnotations m).toList =
      feedLines (linesAbove futureAnnotations m before ++ [defLine m member]) ++
        (indent ++ indent).toList ++ tripleQuote ++
        (docstringText (documentation member) ++ tripleQuote ++ textBehind m member after) := by
  have hmark : (docstringMark (indent ++ indent)).toList =
      (indent ++ indent).toList ++ tripleQuote := rfl
  rw [emitted_of_tidy h, toList_joinLines_feed (moduleLines_ne_nil _ m), moduleLines_split h hm,
    memberText]
  simp only [feedLines_append, feedLines_cons, feedLines_nil, hmark, docstringText, textBehind,
    List.append_assoc, List.cons_append, List.nil_append]

/-- How the code of a class is laid out, line by line. Of each member it says where in the text its
docstring is opened and closed, and that a reader who enters it leaves it just there. -/
structure IsLaidOut (p : Profile) (m : ClassModel) (code : String) : Prop where
  ending : ∃ text, code = text ++ "\n" ∧ EndsVisibly text
  lines : splitFeeds code =
    (if p.futureAnnotations then ["from __future__ import annotations", ""] else []) ++
      (if importLines m.imports = [] then [] else importLines m.imports ++ ["", ""]) ++
        openingLine m ::
          (if m.members.toList = [] then ["    pass"]
          else [""].intercalate (m.members.toList.map (memberText m))) ++ [""]
  isLine : ∀ line ∈ splitFeeds code, IsLine line
  members : ∀ member ∈ m.members.toList,
    member.docBlock.isSome = true ∧ member.Calls p.transportMethod
  docstrings : ∀ before member after, m.members.toList = before ++ member :: after →
    readDocstring (docstringText (documentation member) ++ tripleQuote ++
        textBehind m member after) =
      some (docstringText (documentation member), textBehind m member after) ∧
    code.toList =
      feedLines (linesAbove p.futureAnnotations m before ++ [defLine m member]) ++
        (indent ++ indent).toList ++ tripleQuote ++
        (docstringText (documentation member) ++ tripleQuote ++ textBehind m member after)

theorem emitted_laidOut {p : Profile} {m : ClassModel} (ht : m.IsTidy) (he : m.IsEmittable)
    (hc : ∀ member ∈ m.members.toList, member.Calls p.transportMethod) :
    IsLaidOut p m (emitted p.futureAnnotations m) := by
  obtain ⟨front, last, hl, hlast⟩ := moduleLines_end p.futureAnnotations ht
  have hsplit := splitFeeds_joinLines_feed (moduleLines_ne_nil p.futureAnnotations m)
    (isLine_of_mem_moduleLines ht he)
  rw [← emitted_of_tidy ht] at hsplit
  constructor
  case ending =>
    refine ⟨joinLines (moduleLines p.futureAnnotations m), emitted_of_tidy ht, ?_⟩
    rw [hl]
    exact hlast.joinLines front
  case lines =>
    rw [hsplit, moduleLines, headLines_eq, bodyLines_of_tidy ht]
    rfl
  case isLine =>
    intro line hline
    rw [hsplit] at hline
    rcases List.mem_append.1 hline with hline | hline
    · exact isLine_of_mem_moduleLines ht he line hline
    · cases List.mem_singleton.1 hline
      decide
  case members =>
    intro member hmem
    obtain ⟨d, hd, -⟩ := (ht.members member hmem).documented
    exact ⟨Option.isSome_of_eq_some hd, hc member hmem⟩
  case docstrings =>
    intro before member after hm
    exact ⟨readDocstring_docstringText _ _, toList_emitted ht hm⟩

end Source

/-- The text of a generated client has the layout of its class, whatever wire names and parameters
of the service are called. -/
theorem generate_laidOut {p : Profile} {s : Service} {g : Generated} (h : generate p s = .ok g) :
    Source.IsLaidOut p g.model g.code := by
  obtain ⟨ht, he⟩ := tidy_of_generate h
  have hc : ∀ member ∈ g.model.members.toList, member.Calls p.transportMethod := by
    intro member hmem
    rw [members_of_generate h] at hmem
    obtain ⟨op, -, rfl⟩ := List.mem_map.1 hmem
    exact Assembly.memberOf_calls s.home p op
  rw [(eq_of_generate h).2.2]
  exact Source.emitted_laidOut ht he hc

/-- A service that tries to leave the literals and docstrings its names are written in. -/
def hostile : Service where
  className := "HostileClient"
  operations := [
    ⟨{ wireName := "'\n\\" }, by decide⟩,
    ⟨{ wireName := "Pack", parameters := [
      { name := "a\"\"\"\"\n\\", type := "int" }, { name := "b\r\x0c\\", type := "app.B" }] },
      by decide⟩]
  className_ok := by decide

theorem generate_hostile :
    ∃ g, generate .standard hostile = .ok g ∧ Source.IsLaidOut .standard g.model g.code ∧
      g.model.members.toList.map Member.name = ["operation", "pack"] := by
  have hg := generate_of_faultless (p := .standard) (s := hostile) (by decide)
  exact ⟨_, hg, generate_laidOut hg, (names_of_generate hg).trans (by decide)⟩

end ClientGen
