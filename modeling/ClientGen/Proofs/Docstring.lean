import ClientGen.Proofs.Emission
import ClientGen.Proofs.Lines

namespace ClientGen.Text
open Unicode

def tripleQuote : List Char :=
  ['"', '"', '"']

/-- Reads a docstring from behind its opening quotes: what it says, and what comes behind its
closing quotes; `none` if it is not closed. -/
def readDocstring : List Char → Option (List Char × List Char)
  | [] => none
  | '"' :: '"' :: '"' :: rest => some ([], rest)
  | '\\' :: c :: rest => (readDocstring rest).map fun (text, rest) => ('\\' :: c :: text, rest)
  | c :: rest => (readDocstring rest).map fun (text, rest) => (c :: text, rest)

/-- What is read behind a text that does not close the docstring. -/
def readBehind (text : List Char) (x : Option (List Char × List Char)) :
    Option (List Char × List Char) :=
  x.map fun (more, rest) => (text ++ more, rest)

theorem readBehind_append (text more : List Char) (x : Option (List Char × List Char)) :
    readBehind (text ++ more) x = readBehind text (readBehind more x) := by
  cases x with
  | none => rfl
  | some p => exact congrArg (fun t => some (t, p.2)) (List.append_assoc text more p.1)

theorem readDocstring_tripleQuote (rest : List Char) :
    readDocstring (tripleQuote ++ rest) = some ([], rest) :=
  rfl

theorem readDocstring_backslash (c : Char) (rest : List Char) :
    readDocstring ('\\' :: c :: rest) = readBehind ['\\', c] (readDocstring rest) :=
  rfl

theorem readDocstring_cons {c : Char} {rest : List Char} (hb : c ≠ '\\')
    (hq : ∀ more, c :: rest ≠ '"' :: '"' :: '"' :: more) :
    readDocstring (c :: rest) = readBehind [c] (readDocstring rest) := by
  rw [readDocstring]
  · rfl
  · intro more hc hrest
    rw [hc, hrest] at hq
    exact hq more rfl
  · intro d more hc _
    exact hb hc

theorem readDocstring_plain {c : Char} (hb : c ≠ '\\') (hq : c ≠ '"') (rest : List Char) :
    readDocstring (c :: rest) = readBehind [c] (readDocstring rest) :=
  readDocstring_cons hb fun _ he => hq (List.cons_eq_cons.1 he).1

theorem quote_of_escapeDocstring {cs rest more : List Char}
    (h : escapeDocstring cs ++ '\n' :: rest = '"' :: more) :
    ∃ ds, cs = '"' :: ds ∧ escapeDocstring ds ++ '\n' :: rest = more := by
  rw [escapeDocstring.eq_def] at h
  split at h
  · exact absurd (List.cons_eq_cons.1 h).1 (by decide)
  · exact absurd (List.cons_eq_cons.1 h).1 (by decide)
  · next c ds _ =>
    by_cases hb : c = '\\'
    · rw [hb] at h
      exact absurd (List.cons_eq_cons.1 h).1 (by decide)
    · rw [if_neg fun he => hb (eq_of_beq he)] at h
      obtain ⟨rfl, hmore⟩ := List.cons_eq_cons.1 h
      exact ⟨ds, rfl, hmore⟩

/-- An escaped line is passed over as far as its line feed. -/
theorem readDocstring_escapeDocstring (cs rest : List Char) :
    readDocstring (escapeDocstring cs ++ '\n' :: rest) =
      readBehind (escapeDocstring cs ++ ['\n']) (readDocstring rest) := by
  induction cs using escapeDocstring.induct with
  | case1 => exact readDocstring_plain (by decide) (by decide) rest
  | case2 cs ih =>
    rw [escapeDocstring]
    change readDocstring
      ('\\' :: '"' :: '\\' :: '"' :: '\\' :: '"' :: (escapeDocstring cs ++ '\n' :: rest)) = _
    rw [readDocstring_backslash, readDocstring_backslash, readDocstring_backslash, ih,
      ← readBehind_append, ← readBehind_append, ← readBehind_append]
    rfl
  | case3 c cs hq ih =>
    rw [escapeDocstring]
    · by_cases hb : c = '\\'
      · rw [hb]
        change readDocstring ('\\' :: '\\' :: (escapeDocstring cs ++ '\n' :: rest)) = _
        rw [readDocstring_backslash, ih, ← readBehind_append]
        rfl
      · rw [if_neg fun he => hb (eq_of_beq he), List.singleton_append, List.cons_append,
          List.cons_append, readDocstring_cons hb, ih, ← readBehind_append]
        · rfl
        · -- three quotes here would be three quotes of the line, and escaped
          intro more he
          obtain ⟨rfl, htail⟩ := List.cons_eq_cons.1 he
          obtain ⟨ds, rfl, hds⟩ := quote_of_escapeDocstring htail
          obtain ⟨es, rfl, -⟩ := quote_of_escapeDocstring hds
          exact hq es rfl rfl
    · exact hq

theorem mem_escapeDocstring {c : Char} {cs : List Char} (h : c ∈ escapeDocstring cs) :
    c = '\\' ∨ c ∈ cs := by
  induction cs using escapeDocstring.induct with
  | case1 => cases h
  | case2 cs ih =>
    rw [escapeDocstring] at h
    simp only [List.mem_cons] at h ⊢
    rcases h with h | h | h | h | h | h | h
    · exact .inl h
    · exact .inr (.inl h)
    · exact .inl h
    · exact .inr (.inl h)
    · exact .inl h
    · exact .inr (.inl h)
    · exact (ih h).imp_right fun h => .inr (.inr (.inr h))
  | case3 d cs hq ih =>
    rw [escapeDocstring] at h
    · rcases List.mem_append.1 h with h | h
      · split at h
        · simp only [List.mem_cons, List.not_mem_nil, or_false, or_self] at h
          exact .inl h
        · exact .inr (List.mem_cons.2 (.inl (List.mem_singleton.1 h)))
      · exact (ih h).imp_right (List.mem_cons_of_mem d)
    · exact hq

/-- Whether a text holds neither quotes nor backslashes. -/
def isPlain (cs : List Char) : Bool :=
  cs.all fun c => c != '\\' && c != '"'

theorem readDocstring_append_plain {cs : List Char} (h : isPlain cs = true)
    (rest : List Char) : readDocstring (cs ++ rest) = readBehind cs (readDocstring rest) := by
  induction cs with
  | nil =>
    cases hr : readDocstring rest with
    | none => exact hr
    | some p => exact hr
  | cons c cs ih =>
    rw [isPlain, List.all_cons, Bool.and_eq_true, Bool.and_eq_true, bne_iff_ne, bne_iff_ne] at h
    rw [List.cons_append, readDocstring_plain h.1.1 h.1.2, ih h.2, ← readBehind_append]
    rfl

end ClientGen.Text

namespace ClientGen.Source
open Text

def escapedLines (indentation : String) (content : List String) : List String :=
  content.map fun line => indented indentation (escaped line)

def quotedText (indentation : String) (content : List String) : List Char :=
  '\n' :: feedLines (escapedLines indentation content) ++ indentation.toList

section
variable {indentation : String} (hi : isPlain indentation.toList = true)
include hi

theorem readDocstring_line (line : String) (rest : List Char) :
    readDocstring ((indented indentation (escaped line)).toList ++ '\n' :: rest) =
      readBehind ((indented indentation (escaped line)).toList ++ ['\n'])
        (readDocstring rest) := by
  rw [indented]
  split
  · exact readDocstring_plain (by decide) (by decide) rest
  · rw [String.toList_append, List.append_assoc, readDocstring_append_plain hi, escaped,
      String.toList_ofList, readDocstring_escapeDocstring, ← readBehind_append,
      ← List.append_assoc]

theorem readDocstring_escapedLines (content : List String) (rest : List Char) :
    readDocstring (feedLines (escapedLines indentation content) ++ rest) =
      readBehind (feedLines (escapedLines indentation content)) (readDocstring rest) := by
  rw [escapedLines]
  induction content with
  | nil =>
    rw [List.map_nil]
    exact readDocstring_append_plain rfl rest
  | cons line lines ih =>
    rw [List.map_cons, feedLines, List.flatMap_cons, ← feedLines, List.append_assoc,
      List.append_assoc, List.singleton_append, readDocstring_line hi, ih, ← readBehind_append]

/-- A docstring is read to its own closing quotes, whatever it says. -/
theorem readDocstring_quotedText (content : List String) (rest : List Char) :
    readDocstring (quotedText indentation content ++ tripleQuote ++ rest) =
      some (quotedText indentation content, rest) := by
  rw [quotedText, List.append_assoc, List.append_assoc, List.cons_append,
    readDocstring_plain (by decide) (by decide), readDocstring_escapedLines hi,
    readDocstring_append_plain hi, readDocstring_tripleQuote]
  refine congrArg (fun t => some (t, rest)) ?_
  rw [List.append_nil]
  rfl

end

/-- What stands between the opening and the closing quotes of a docstring. -/
def docstringText (d : DocBlock) : List Char :=
  '\n' :: feedLines (docstringLines d) ++ (indent ++ indent).toList

theorem readDocstring_docstringText (d : DocBlock) (rest : List Char) :
    readDocstring (docstringText d ++ tripleQuote ++ rest) = some (docstringText d, rest) :=
  readDocstring_quotedText (by decide) (docLines d) rest

end ClientGen.Source
