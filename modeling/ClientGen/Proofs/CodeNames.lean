import ClientGen.Proofs.ImportLines
import ClientGen.Proofs.Layout
import ClientGen.Proofs.Literal

namespace ClientGen

theorem TypeName.splitSegments_dotted {segments : List String} (hne : segments ≠ [])
    (h : ∀ segment ∈ segments, isIdentifier segment = true) :
    splitSegments (dotted segments) = segments := by
  have hdots : (dotted segments).toList.dropWhile (· == '.') = (dotted segments).toList := by
    have hsplit := splitOn_dotted hne h
    cases hl : (dotted segments).toList with
    | nil => rfl
    | cons c cs =>
      -- a dot in front would be behind an empty segment
      refine List.dropWhile_cons_of_neg fun hc => ?_
      obtain ⟨segment, rest, rfl⟩ := List.exists_cons_of_ne_nil hne
      rw [hl, eq_of_beq hc, List.splitOn_eq_splitOnP, List.splitOnP_cons_eq_if_modifyHead,
        if_pos (beq_self_eq_true _)] at hsplit
      have hempty : segment = "" := String.toList_injective (List.cons_eq_cons.1 hsplit).1.symm
      have hid := h segment List.mem_cons_self
      rw [hempty] at hid
      cases hid
  have hid : String.ofList ∘ String.toList = id := funext fun s => String.ofList_toList
  rw [splitSegments, hdots, splitOn_dotted hne h, List.map_map, hid, List.map_id]

theorem TypeName.splitSegments_identifier {s : String} (h : isIdentifier s = true) :
    splitSegments s = [s] := by
  have hs := splitSegments_dotted (List.cons_ne_nil s []) fun _ hx => List.mem_singleton.1 hx ▸ h
  rwa [dotted_singleton] at hs

theorem isDotted_of_isIdentifier {s : String} (h : isIdentifier s = true) : IsDotted s :=
  ⟨[s], List.cons_ne_nil _ _, fun _ hs => List.mem_singleton.1 hs ▸ h, (dotted_singleton s).symm⟩

namespace Source
open Text

/-- Whether dotted names end at a character. -/
def endsName (c : Char) : Bool :=
  !Unicode.isIdContinue c && c != '.'

def wordsIn (s : String) : List String :=
  ((s.toList.splitOnP endsName).filter fun word => !word.isEmpty).map String.ofList

def isNoQuote (c : Char) : Bool :=
  c != '\'' && c != '"'

/-- A text with a blank in place of the first literal in it. -/
def withoutLiteral (s : String) : String :=
  match readLiteral (s.toList.dropWhile isNoQuote) with
  | some (_, rest) => String.ofList (s.toList.takeWhile isNoQuote ++ ' ' :: rest)
  | none => s

/-- The names in a line of code. The word that the line begins with is of the language, and so is
the one behind the module that names are imported from. -/
def namesOf (line : String) : List String :=
  match wordsIn (withoutLiteral line) with
  | [] => []
  | first :: words =>
    (if first == "from" then words.eraseIdx 1 else words).flatMap TypeName.splitSegments

/-- The lines that stand outside docstrings. -/
def codeLines (inside : Bool) : List String → List String
  | [] => []
  | line :: lines =>
    if line == docstringMark (indent ++ indent) then codeLines (!inside) lines
    else if inside then codeLines inside lines
    else line :: codeLines inside lines

def namesIn (code : String) : List String :=
  (codeLines false (splitFeeds code)).flatMap namesOf

section Words
variable {s t sep : String}

def IsBreak (sep : String) : Prop :=
  sep ≠ "" ∧ ∀ c ∈ sep.toList, endsName c = true

instance (sep : String) : Decidable (IsBreak sep) :=
  have := List.decidableBAll (fun c => endsName c = true) sep.toList
  inferInstanceAs (Decidable (_ ∧ _))

theorem wordsIn_empty : wordsIn "" = [] :=
  rfl

/-- Between two characters that end a word there is none. -/
theorem filter_splitOnP_endsName {cs : List Char} (h : ∀ c ∈ cs, endsName c = true)
    (ds : List Char) :
    ((cs ++ ds).splitOnP endsName).filter (fun word => !word.isEmpty) =
      (ds.splitOnP endsName).filter fun word => !word.isEmpty := by
  induction cs with
  | nil => rfl
  | cons c cs ih =>
    rw [List.cons_append, List.splitOnP_cons_eq_if_modifyHead, if_pos (h c List.mem_cons_self),
      List.filter_cons_of_neg (by decide)]
    exact ih fun d hd => h d (List.mem_cons_of_mem c hd)

theorem wordsIn_break (hsep : IsBreak sep) (s t : String) :
    wordsIn (s ++ sep ++ t) = wordsIn s ++ wordsIn t := by
  obtain ⟨hne, hall⟩ := hsep
  obtain ⟨c, cs, hs⟩ : ∃ c cs, sep.toList = c :: cs :=
    List.exists_cons_of_ne_nil fun he => hne (String.toList_eq_nil_iff.1 he)
  rw [hs, List.forall_mem_cons] at hall
  have hl : (s ++ sep ++ t).toList = s.toList ++ c :: (cs ++ t.toList) := by
    rw [String.toList_append, String.toList_append, hs, List.append_assoc, List.cons_append]
  rw [wordsIn, hl, List.splitOnP_append_cons _ _ hall.1, List.filter_append,
    filter_splitOnP_endsName hall.2, List.map_append]
  rfl

theorem wordsIn_break_end (hsep : IsBreak sep) (s : String) : wordsIn (s ++ sep) = wordsIn s := by
  have h := wordsIn_break hsep s ""
  rwa [String.append_empty, wordsIn_empty, List.append_nil] at h

theorem wordsIn_break_start (hsep : IsBreak sep) (t : String) : wordsIn (sep ++ t) = wordsIn t := by
  have h := wordsIn_break hsep "" t
  rwa [String.empty_append, wordsIn_empty, List.nil_append] at h

theorem wordsIn_dotted (h : IsDotted s) : wordsIn s = [s] := by
  have hsplit : s.toList.splitOnP endsName = [s.toList] := by
    apply List.splitOnP_eq_singleton
    intro c hc
    by_contra he
    rw [Bool.not_eq_false, endsName, Bool.and_eq_true, Bool.not_eq_true', bne_iff_ne] at he
    exact h.not_mem he.1 he.2 hc
  have hempty : s.toList.isEmpty = false := by
    rw [List.isEmpty_eq_false_iff]
    exact fun he => h.ne_empty (String.toList_eq_nil_iff.1 he)
  rw [wordsIn, hsplit, List.filter_singleton, hempty]
  exact congrArg (· :: []) String.ofList_toList

theorem wordsIn_intercalate (pieces : List String) :
    wordsIn (", ".intercalate pieces) = pieces.flatMap wordsIn := by
  induction pieces with
  | nil => rfl
  | cons piece pieces ih =>
    cases pieces with
    | nil => rw [String.intercalate_singleton, List.flatMap_singleton]
    | cons next pieces =>
      rw [String.intercalate_cons_cons, wordsIn_break (by decide), ih]
      rfl

end Words

section Unquoted

/-- Whether no literal begins in a text. -/
def IsUnquoted (s : String) : Prop :=
  ∀ c ∈ s.toList, isNoQuote c = true

instance (s : String) : Decidable (IsUnquoted s) :=
  List.decidableBAll _ s.toList

theorem IsUnquoted.append {s t : String} (hs : IsUnquoted s) (ht : IsUnquoted t) :
    IsUnquoted (s ++ t) :=
  forall_mem_append hs ht

theorem isUnquoted_of_isDotted {s : String} (h : IsDotted s) : IsUnquoted s := by
  intro c hc
  rw [isNoQuote, Bool.and_eq_true, bne_iff_ne, bne_iff_ne]
  constructor
  · rintro rfl
    exact h.not_mem (by decide) (by decide) hc
  · rintro rfl
    exact h.not_mem (by decide) (by decide) hc

theorem withoutLiteral_of_isUnquoted {s : String} (h : IsUnquoted s) : withoutLiteral s = s := by
  have hd : (s.toList ++ []).dropWhile isNoQuote = [] := List.dropWhile_append_of_pos h
  rw [List.append_nil] at hd
  rw [withoutLiteral, hd]
  rfl

theorem isNoQuote_quoteMark (cs : List Char) : ¬isNoQuote (quoteMark cs) = true := by
  rcases quoteMark_eq_or cs with he | he
  · rw [he]
    decide
  · rw [he]
    decide

theorem withoutLiteral_quoted {s : String} (h : IsUnquoted s) (value t : String) :
    withoutLiteral (s ++ quoted value ++ t) = s ++ " " ++ t := by
  have hmark := isNoQuote_quoteMark value.toList
  obtain ⟨cs, hcs⟩ : ∃ cs, quoteChars value.toList ++ t.toList = quoteMark value.toList :: cs :=
    ⟨_, rfl⟩
  have hl : (s ++ quoted value ++ t).toList = s.toList ++ quoteMark value.toList :: cs := by
    rw [String.toList_append, String.toList_append, List.append_assoc, quoted, String.toList_ofList,
      hcs]
  have hread : readLiteral (quoteMark value.toList :: cs) = some (value.toList, t.toList) := by
    rw [← hcs, readLiteral_quoteChars]
  rw [withoutLiteral, hl, List.dropWhile_append_of_pos h, List.dropWhile_cons_of_neg hmark, hread,
    List.takeWhile_append_of_pos h, List.takeWhile_cons_of_neg hmark, List.append_nil]
  apply String.toList_injective
  rw [String.toList_ofList, String.toList_append, String.toList_append, List.append_assoc]
  rfl

end Unquoted

section Lines

theorem namesOf_of_words {line first : String} {words : List String}
    (hw : wordsIn (withoutLiteral line) = first :: words) (hfirst : first ≠ "from") :
    namesOf line = words.flatMap TypeName.splitSegments := by
  rw [namesOf, hw]
  exact congrArg (List.flatMap TypeName.splitSegments) (if_neg fun he => hfirst (eq_of_beq he))

theorem namesOf_import {name : String} (h : IsDotted name) :
    namesOf ("import " ++ name) = TypeName.splitSegments name := by
  have hl : "import " ++ name = "import" ++ " " ++ name := rfl
  have hu : IsUnquoted ("import " ++ name) := IsUnquoted.append (by decide) (isUnquoted_of_isDotted h)
  have hw : wordsIn (withoutLiteral ("import " ++ name)) = ["import", name] := by
    rw [withoutLiteral_of_isUnquoted hu, hl, wordsIn_break (by decide), wordsIn_dotted h]
    rfl
  rw [namesOf_of_words hw (by decide), List.flatMap_singleton]

theorem namesOf_from {module : String} {names : List String} (hm : IsDotted module)
    (hn : ∀ name ∈ names, IsDotted name) :
    namesOf ("from " ++ module ++ " import " ++ ", ".intercalate names) =
      TypeName.splitSegments module ++ names.flatMap TypeName.splitSegments := by
  have hl : "from " ++ module ++ " import " ++ ", ".intercalate names =
      "from" ++ " " ++ module ++ " " ++ ("import" ++ " " ++ ", ".intercalate names) := by
    have hfrom : "from " = "from" ++ " " := rfl
    have himport : " import " = " " ++ ("import" ++ " ") := rfl
    rw [hfrom, himport]
    simp only [String.append_assoc]
  have hnames : names.flatMap wordsIn = names := by
    rw [List.flatMap_congr fun name hname => wordsIn_dotted (hn name hname)]
    exact List.flatMap_singleton' names
  have hu : IsUnquoted ("from " ++ module ++ " import " ++ ", ".intercalate names) := by
    have hquoted : ∀ name ∈ names, IsUnquoted name :=
      fun name hname => isUnquoted_of_isDotted (hn name hname)
    exact ((IsUnquoted.append (by decide) (isUnquoted_of_isDotted hm)).append (by decide)).append
      (forall_mem_intercalate (show IsUnquoted ", " by decide) hquoted)
  have hw : wordsIn ("from" ++ " " ++ module ++ " " ++ ("import" ++ " " ++ ", ".intercalate names)) =
      "from" :: module :: "import" :: names := by
    rw [wordsIn_break (by decide), wordsIn_break (by decide), wordsIn_break (by decide),
      wordsIn_intercalate, hnames, wordsIn_dotted hm]
    rfl
  rw [namesOf, withoutLiteral_of_isUnquoted hu, hl, hw]
  rfl

theorem isUnquoted_openingLine {m : ClassModel} (hname : isIdentifier m.name = true)
    (he : m.IsEmittable) : IsUnquoted (openingLine m) :=
  forall_mem_openingLine (show ∀ s ∈ openingMarks, IsUnquoted s by decide)
    (isUnquoted_of_isDotted (isDotted_of_isIdentifier hname))
    fun base hb => isUnquoted_of_isDotted (m.isDotted_spelled (he.base base hb))

theorem namesOf_openingLine {m : ClassModel} (hname : isIdentifier m.name = true)
    (he : m.IsEmittable) :
    namesOf (openingLine m) =
      m.name :: m.base.toList.flatMap fun base => TypeName.splitSegments (m.spelled base) := by
  have hclass : "class " = "class" ++ " " := rfl
  have hword := wordsIn_dotted (isDotted_of_isIdentifier hname)
  have hw : wordsIn (withoutLiteral (openingLine m)) =
      "class" :: m.name :: m.base.toList.map m.spelled := by
    rw [withoutLiteral_of_isUnquoted (isUnquoted_openingLine hname he), openingLine, hclass]
    cases hb : m.base with
    | none =>
      dsimp only
      rw [wordsIn_break_end (by decide), wordsIn_break (by decide), hword]
      rfl
    | some base =>
      dsimp only
      rw [wordsIn_break_end (by decide), wordsIn_break (by decide), wordsIn_break (by decide), hword,
        wordsIn_dotted (m.isDotted_spelled (he.base base hb))]
      rfl
  rw [namesOf_of_words hw (by decide), List.flatMap_cons, TypeName.splitSegments_identifier hname,
    List.flatMap_map]
  rfl

def signatureNames (m : ClassModel) (member : Member) : List String :=
  member.name :: "self" ::
    ((member.arguments.flatMap fun a => a.name :: TypeName.splitSegments (m.spelled a.type)) ++
      TypeName.splitSegments (m.spelled member.returnType))

section Member
variable {m : ClassModel} {member : Member}

theorem isUnquoted_defLine (hname : isIdentifier member.name = true)
    (ha : ∀ a ∈ member.arguments, isIdentifier a.name = true) (he : member.IsEmittable) :
    IsUnquoted (defLine m member) :=
  forall_mem_defLine (show ∀ s ∈ signatureMarks, IsUnquoted s by decide)
    (isUnquoted_of_isDotted (isDotted_of_isIdentifier hname))
    (fun a hmem => isUnquoted_of_isDotted (isDotted_of_isIdentifier (ha a hmem)))
    (fun a hmem => isUnquoted_of_isDotted (m.isDotted_spelled (he.arguments a hmem)))
    (isUnquoted_of_isDotted (m.isDotted_spelled he.returnType))

theorem namesOf_defLine (hname : isIdentifier member.name = true)
    (ha : ∀ a ∈ member.arguments, isIdentifier a.name = true) (he : member.IsEmittable) :
    namesOf (defLine m member) = signatureNames m member := by
  have hdef : indent ++ "def " = "    def" ++ " " := rfl
  have hword := wordsIn_dotted (isDotted_of_isIdentifier hname)
  have harguments : (member.arguments.map (writtenArgument m)).flatMap wordsIn =
      member.arguments.flatMap fun a => [a.name, m.spelled a.type] := by
    rw [List.flatMap_map]
    apply List.flatMap_congr
    intro a hmem
    rw [writtenArgument, wordsIn_break (by decide),
      wordsIn_dotted (isDotted_of_isIdentifier (ha a hmem)),
      wordsIn_dotted (m.isDotted_spelled (he.arguments a hmem))]
    rfl
  have hw : wordsIn (withoutLiteral (defLine m member)) =
      "def" :: member.name :: "self" ::
        ((member.arguments.flatMap fun a => [a.name, m.spelled a.type]) ++
          [m.spelled member.returnType]) := by
    rw [withoutLiteral_of_isUnquoted (isUnquoted_defLine hname ha he), defLine, hdef,
      wordsIn_break_end (by decide), wordsIn_break (by decide), wordsIn_break (by decide),
      wordsIn_break (by decide), wordsIn_intercalate, List.flatMap_cons, harguments, hword,
      wordsIn_dotted (m.isDotted_spelled he.returnType)]
    rfl
  have hsegments : (member.arguments.flatMap fun a => [a.name, m.spelled a.type]).flatMap
        TypeName.splitSegments =
      member.arguments.flatMap fun a => a.name :: TypeName.splitSegments (m.spelled a.type) := by
    rw [List.flatMap_assoc]
    apply List.flatMap_congr
    intro a hmem
    rw [List.flatMap_cons, List.flatMap_singleton, TypeName.splitSegments_identifier (ha a hmem)]
    rfl
  rw [namesOf_of_words hw (by decide), List.flatMap_cons, List.flatMap_cons, List.flatMap_append,
    hsegments, TypeName.splitSegments_identifier hname, List.flatMap_singleton]
  rfl

theorem namesOf_call {method : String} (hmethod : isIdentifier method = true)
    (value behind : String) :
    namesOf (indent ++ indent ++ ("return self." ++ method ++ "(" ++ quoted value ++ behind)) =
      "self" :: method :: (wordsIn behind).flatMap TypeName.splitSegments := by
  have hsegments : ∀ segment ∈ ["self", method], isIdentifier segment = true := by
    intro segment hs
    rcases List.mem_cons.1 hs with rfl | hs
    · decide
    · rwa [List.mem_singleton.1 hs]
  have hself : "self." ++ method = dotted ["self", method] := by
    rw [dotted, String.intercalate_cons_cons, String.intercalate_singleton]
    rfl
  have hdotted : IsDotted ("self." ++ method) := ⟨_, List.cons_ne_nil _ _, hsegments, hself⟩
  have hl : indent ++ indent ++ ("return self." ++ method ++ "(" ++ quoted value ++ behind) =
      "        return" ++ " " ++ ("self." ++ method) ++ "(" ++ quoted value ++ behind := by
    have hreturn : indent ++ indent ++ "return self." = "        return" ++ " " ++ "self." := rfl
    simp only [← String.append_assoc]
    rw [hreturn]
  have hu : IsUnquoted ("        return" ++ " " ++ ("self." ++ method) ++ "(") :=
    (IsUnquoted.append (by decide) (isUnquoted_of_isDotted hdotted)).append (by decide)
  have hopen : "        return" ++ " " ++ ("self." ++ method) ++ "(" ++ " " ++ behind =
      "        return" ++ " " ++ ("self." ++ method) ++ ("(" ++ " ") ++ behind := by
    simp only [String.append_assoc]
  have hw : wordsIn (withoutLiteral
      (indent ++ indent ++ ("return self." ++ method ++ "(" ++ quoted value ++ behind))) =
        "return" :: ("self." ++ method) :: wordsIn behind := by
    rw [hl, withoutLiteral_quoted hu, hopen, wordsIn_break (by decide), wordsIn_break (by decide),
      wordsIn_dotted hdotted]
    rfl
  rw [namesOf_of_words hw (by decide), List.flatMap_cons, hself,
    TypeName.splitSegments_dotted (List.cons_ne_nil _ _) hsegments]
  rfl

end Member

end Lines

section CodeLines

theorem ne_docstringMark_of_mem_docstringLines {d : DocBlock} :
    ∀ line ∈ docstringLines d, line ≠ docstringMark (indent ++ indent) := by
  intro line hline he
  obtain ⟨x, -, rfl⟩ := List.mem_map.1 hline
  rw [indented] at he
  split at he
  · exact absurd he (by decide)
  · have hmark : (escaped x).toList = tripleQuote := by
      have hl := congrArg String.toList he
      rw [docstringMark, String.toList_append, String.toList_append] at hl
      exact List.append_cancel_left hl
    -- such a line would end the docstring for its reader, too
    have hread := readDocstring_escapeDocstring x.toList []
    rw [escaped, String.toList_ofList] at hmark
    rw [hmark, readDocstring_tripleQuote] at hread
    cases hread

theorem ne_docstringMark_of_isUnquoted {line : String} (h : IsUnquoted line) :
    line ≠ docstringMark (indent ++ indent) := by
  rintro rfl
  exact absurd (h '"' (by decide)) (by decide)

theorem codeLines_append {lines : List String}
    (h : ∀ line ∈ lines, line ≠ docstringMark (indent ++ indent)) (inside : Bool)
    (rest : List String) :
    codeLines inside (lines ++ rest) =
      (if inside then [] else lines) ++ codeLines inside rest := by
  induction lines with
  | nil => cases inside <;> rfl
  | cons line lines ih =>
    have hline : ¬(line == docstringMark (indent ++ indent)) = true :=
      fun he => h line List.mem_cons_self (eq_of_beq he)
    rw [List.cons_append, codeLines, if_neg hline, ih fun x hx => h x (List.mem_cons_of_mem line hx)]
    cases inside <;> rfl

theorem codeLines_mark (inside : Bool) (rest : List String) :
    codeLines inside (docstringMark (indent ++ indent) :: rest) = codeLines (!inside) rest := by
  rw [codeLines, if_pos (beq_self_eq_true _)]

theorem codeLines_cons {line : String} (h : line ≠ docstringMark (indent ++ indent))
    (rest : List String) : codeLines false (line :: rest) = line :: codeLines false rest :=
  codeLines_append (fun _ hx => List.mem_singleton.1 hx ▸ h) false rest

theorem codeLines_memberText {m : ClassModel} {member : Member}
    (hdef : defLine m member ≠ docstringMark (indent ++ indent))
    (hcode : codeLine member ≠ docstringMark (indent ++ indent)) (rest : List String) :
    codeLines false (memberText m member ++ rest) =
      [defLine m member, codeLine member] ++ codeLines false rest := by
  have hl : memberText m member ++ rest = defLine m member :: docstringMark (indent ++ indent) ::
      (docstringLines (documentation member) ++
        docstringMark (indent ++ indent) :: codeLine member :: rest) := by
    simp only [memberText, List.cons_append, List.append_assoc, List.nil_append]
  rw [hl, codeLines_cons hdef, codeLines_mark, Bool.not_false,
    codeLines_append ne_docstringMark_of_mem_docstringLines, codeLines_mark, Bool.not_true,
    codeLines_cons hcode]
  rfl

end CodeLines

theorem splitSegments_full {t : TypeName} (h : t.IsProper) :
    TypeName.splitSegments t.full = t.segments :=
  TypeName.splitSegments_dotted (List.append_ne_nil_of_right_ne_nil _ (List.cons_ne_nil _ _)) h

theorem isDotted_space {t : TypeName} (h : t.IsProper) (hq : t.qualifiers ≠ []) :
    IsDotted t.space :=
  ⟨t.qualifiers, hq, h.qualifiers, rfl⟩

section Imports
variable {t : ImportTable}

theorem namesOf_module_line (ht : t.IsProper) {name : String} (h : name ∈ namesFrom "" t.names) :
    namesOf ("import " ++ name) = TypeName.splitSegments name := by
  obtain ⟨u, hu, -, -, rfl⟩ := proper_of_mem_namesFrom ht h
  exact namesOf_import hu.isDotted_leaf

theorem namesOf_names_line (ht : t.IsProper) {module : String} (hm : module ≠ "")
    (hne : namesFrom module t.names ≠ []) :
    namesOf ("from " ++ module ++ " import " ++ ", ".intercalate (namesFrom module t.names)) =
      TypeName.splitSegments module ++ namesFrom module t.names := by
  have hid : ∀ name ∈ namesFrom module t.names, isIdentifier name = true := by
    intro name hname
    obtain ⟨u, hu, -, -, rfl⟩ := proper_of_mem_namesFrom ht hname
    exact hu.leaf
  obtain ⟨first, hfirst⟩ := List.exists_mem_of_ne_nil _ hne
  obtain ⟨u, hu, -, rfl, -⟩ := proper_of_mem_namesFrom ht hfirst
  have hspace := isDotted_space hu fun he => hm (hu.space_eq_empty_iff.2 he)
  rw [namesOf_from hspace fun name hname => isDotted_of_isIdentifier (hid name hname),
    List.flatMap_congr fun name hname => TypeName.splitSegments_identifier (hid name hname)]
  congr 1
  exact List.flatMap_singleton' _

theorem splitSegments_of_mem_namesFrom (ht : t.IsProper) {module name : String} (hm : module ≠ "")
    (h : name ∈ namesFrom module t.names) :
    TypeName.splitSegments (module ++ "." ++ name) = TypeName.splitSegments module ++ [name] := by
  obtain ⟨u, hu, -, rfl, rfl⟩ := proper_of_mem_namesFrom ht h
  have hq : u.qualifiers ≠ [] := fun he => hm (hu.space_eq_empty_iff.2 he)
  rw [← TypeName.full_of_qualified hq, splitSegments_full hu, TypeName.space,
    TypeName.splitSegments_dotted hq hu.qualifiers, TypeName.segments]

/-- An import line is written with the segments of what it brings in. -/
theorem mem_namesOf_importLine_iff (ht : t.IsProper) {line segment : String}
    (h : line ∈ importLines t) :
    segment ∈ namesOf line ↔ ∃ name ∈ importedBy line, segment ∈ TypeName.splitSegments name := by
  rcases importLine_cases h with ⟨name, hname, rfl⟩ | ⟨module, hm, hne, rfl⟩
  · rw [namesOf_module_line ht hname, (importedBy_module_line ht hname).1]
    simp only [List.mem_singleton, exists_eq_left]
  · obtain ⟨first, hfirst⟩ := List.exists_mem_of_ne_nil _ hne
    rw [namesOf_names_line ht hm hne, (importedBy_names_line ht hm hne).1, List.mem_append]
    constructor
    · rintro (hs | hs)
      · refine ⟨_, List.mem_map_of_mem hfirst, ?_⟩
        rw [splitSegments_of_mem_namesFrom ht hm hfirst]
        exact List.mem_append_left _ hs
      · refine ⟨_, List.mem_map_of_mem hs, ?_⟩
        rw [splitSegments_of_mem_namesFrom ht hm hs]
        exact List.mem_append_right _ List.mem_cons_self
    · rintro ⟨_, hbrought, hs⟩
      obtain ⟨name, hname, rfl⟩ := List.mem_map.1 hbrought
      rw [splitSegments_of_mem_namesFrom ht hm hname, List.mem_append, List.mem_singleton] at hs
      refine hs.imp_right fun he => ?_
      rw [he]
      exact hname

theorem importLine_ne_docstringMark (ht : t.IsProper) :
    ∀ line ∈ importLines t, line ≠ docstringMark (indent ++ indent) := by
  have hnone : namesOf (docstringMark (indent ++ indent)) = [] := by decide
  intro line hline he
  rw [← he] at hnone
  rcases importLine_cases hline with ⟨name, hname, rfl⟩ | ⟨module, hm, hne, rfl⟩
  · rw [namesOf_module_line ht hname] at hnone
    exact List.splitOn_ne_nil '.' _ (List.map_eq_nil_iff.1 hnone)
  · rw [namesOf_names_line ht hm hne] at hnone
    exact hne (List.append_eq_nil_iff.1 hnone).2

theorem mem_namesOf_importLines_iff (ht : t.IsProper) {segment : String} :
    segment ∈ (importLines t).flatMap namesOf ↔
      ∃ name ∈ t.names, segment ∈ TypeName.splitSegments name := by
  rw [List.mem_flatMap]
  constructor
  · rintro ⟨line, hline, hs⟩
    obtain ⟨name, hname, hs⟩ := (mem_namesOf_importLine_iff ht hline).1 hs
    exact ⟨name, (mem_importedBy_iff ht).1 ⟨line, hline, hname⟩, hs⟩
  · rintro ⟨name, hname, hs⟩
    obtain ⟨line, hline, hname⟩ := (mem_importedBy_iff ht).2 hname
    exact ⟨line, hline, (mem_namesOf_importLine_iff ht hline).2 ⟨name, hname, hs⟩⟩

theorem headLine_ne_docstringMark (ht : t.IsProper) (futureAnnotations : Bool) :
    ∀ line ∈ headLines futureAnnotations t, line ≠ docstringMark (indent ++ indent) := by
  have hfuture : ∀ line ∈ ["from __future__ import annotations", ""],
      line ≠ docstringMark (indent ++ indent) := by decide
  have hblank : ∀ line ∈ ["", ""], line ≠ docstringMark (indent ++ indent) := by decide
  intro line hline
  rw [headLines_eq] at hline
  rcases List.mem_append.1 hline with hline | hline
  · split at hline
    · exact hfuture line hline
    · cases hline
  · split at hline
    · cases hline
    · rcases List.mem_append.1 hline with hline | hline
      · exact importLine_ne_docstringMark ht line hline
      · exact hblank line hline

theorem flatMap_namesOf_headLines (futureAnnotations : Bool) (t : ImportTable) :
    (headLines futureAnnotations t).flatMap namesOf =
      (if futureAnnotations then ["__future__", "annotations"] else []) ++
        (importLines t).flatMap namesOf := by
  have hfuture : (if futureAnnotations then ["from __future__ import annotations", ""]
      else []).flatMap namesOf =
        if futureAnnotations then ["__future__", "annotations"] else [] := by
    cases futureAnnotations <;> decide
  rw [headLines_eq, List.flatMap_append, hfuture]
  congr 1
  split
  · next hnone => rw [hnone]
  · rw [List.flatMap_append]
    exact List.append_nil _

end Imports

end Source

end ClientGen
