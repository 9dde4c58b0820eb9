import ClientGen.Proofs.Docstring

namespace ClientGen

namespace Text

/-- A text with its escapes taken back: a backslash stands for itself in front of anything but a
backslash and a double quote. -/
def unescapeDocstring : List Char → List Char
  | [] => []
  | '\\' :: '\\' :: cs => '\\' :: unescapeDocstring cs
  | '\\' :: '"' :: cs => '"' :: unescapeDocstring cs
  | c :: cs => c :: unescapeDocstring cs

theorem unescapeDocstring_cons {c : Char} (h : c ≠ '\\') (rest : List Char) :
    unescapeDocstring (c :: rest) = c :: unescapeDocstring rest := by
  rw [unescapeDocstring]
  · exact fun _ hc _ => h hc
  · exact fun _ hc _ => h hc

theorem unescapeDocstring_escapeDocstring (cs rest : List Char) :
    unescapeDocstring (escapeDocstring cs ++ rest) = cs ++ unescapeDocstring rest := by
  induction cs using escapeDocstring.induct with
  | case1 => rfl
  | case2 cs ih =>
    rw [escapeDocstring]
    change '"' :: '"' :: '"' :: unescapeDocstring (escapeDocstring cs ++ rest) = _
    rw [ih]
    rfl
  | case3 c cs hq ih =>
    rw [escapeDocstring]
    · by_cases hb : c = '\\'
      · rw [hb]
        change '\\' :: unescapeDocstring (escapeDocstring cs ++ rest) = _
        rw [ih]
        rfl
      · rw [if_neg fun he => hb (eq_of_beq he), List.append_assoc, List.singleton_append,
          unescapeDocstring_cons hb, ih]
        rfl
    · exact hq

theorem unescapeDocstring_plain {cs : List Char} (h : isPlain cs = true) (rest : List Char) :
    unescapeDocstring (cs ++ rest) = cs ++ unescapeDocstring rest := by
  induction cs with
  | nil => rfl
  | cons c cs ih =>
    rw [isPlain, List.all_cons, Bool.and_eq_true, Bool.and_eq_true, bne_iff_ne] at h
    rw [List.cons_append, unescapeDocstring_cons h.1.1, ih h.2, List.cons_append]

end Text

namespace Source
open Text

def spaces (n : Nat) : String :=
  String.ofList (List.replicate n ' ')

theorem isPlain_spaces (n : Nat) : isPlain (spaces n).toList = true := by
  rw [spaces, String.toList_ofList, isPlain, List.all_replicate]
  simp

theorem length_spaces (n : Nat) : (spaces n).length = n := by
  rw [spaces, String.length_ofList, List.length_replicate]

theorem eq_empty_of_escaped {line : String} (h : escaped line = "") : line = "" := by
  have hread := unescapeDocstring_escapeDocstring line.toList []
  have hnil : escapeDocstring line.toList = [] := String.ofList_eq_empty_iff.1 h
  rw [hnil, List.append_nil] at hread
  rw [unescapeDocstring, List.append_nil] at hread
  exact String.toList_eq_nil_iff.1 hread.symm

section
variable {indentation : String} (hi : isPlain indentation.toList = true)
include hi

theorem unescapeDocstring_line (line : String) (rest : List Char) :
    unescapeDocstring ((indented indentation (escaped line)).toList ++ '\n' :: rest) =
      (indented indentation line).toList ++ '\n' :: unescapeDocstring rest := by
  by_cases he : line = ""
  · rw [he]
    exact unescapeDocstring_cons (by decide) rest
  · have hne : escaped line ≠ "" := fun h => he (eq_empty_of_escaped h)
    rw [indented, if_neg fun h => hne (eq_of_beq h), indented, if_neg fun h => he (eq_of_beq h),
      String.toList_append, String.toList_append, List.append_assoc, List.append_assoc,
      unescapeDocstring_plain hi, escaped, String.toList_ofList, unescapeDocstring_escapeDocstring,
      unescapeDocstring_cons (by decide)]

theorem unescapeDocstring_escapedLines (content : List String) (rest : List Char) :
    unescapeDocstring (feedLines (escapedLines indentation content) ++ rest) =
      feedLines (content.map (indented indentation)) ++ unescapeDocstring rest := by
  rw [escapedLines]
  induction content with
  | nil => rfl
  | cons line lines ih =>
    rw [List.map_cons, List.map_cons, feedLines_cons, feedLines_cons, List.append_assoc,
      List.cons_append, unescapeDocstring_line hi, ih, List.append_assoc, List.cons_append]

theorem unescapeDocstring_quotedText (content : List String) :
    unescapeDocstring (quotedText indentation content) =
      '\n' :: feedLines (content.map (indented indentation)) ++ indentation.toList := by
  have hend := unescapeDocstring_plain hi []
  rw [List.append_nil, unescapeDocstring, List.append_nil] at hend
  rw [quotedText, List.cons_append, unescapeDocstring_cons (by decide),
    unescapeDocstring_escapedLines hi, hend, List.cons_append]

end

/-- What a docstring says at an indent of the given size, wrapped if it may be. -/
def shownLines (indentation : Nat) (d : DocBlock) : Except Fault (List String) :=
  if d.wordWrap then wrapLines indentation (docLines d) else .ok (docLines d)

def markedLines (indentation : String) (content : List String) : List String :=
  docstringMark indentation :: escapedLines indentation content ++ [docstringMark indentation]

theorem docBlockLines_eq (indentation : String) (d : DocBlock) :
    docBlockLines indentation d =
      (shownLines indentation.length d).map (markedLines indentation) := by
  rw [docBlockLines, shownLines]
  cases d.wordWrap with
  | false => rfl
  | true =>
    simp only [if_true]
    cases wrapLines indentation.length (docLines d) with
    | error f => rfl
    | ok content => rfl

theorem exists_shownLines (d : DocBlock) {n : Nat} (hn : n < lineWidth) :
    ∃ content, shownLines n d = .ok content := by
  have hw : 0 < lineWidth - n := Nat.sub_pos_of_lt hn
  rw [shownLines, wrapLines]
  split
  · split
    · exact ⟨_, rfl⟩
    · exact ⟨_, rfl⟩
  · exact ⟨_, rfl⟩

/-- An indent that leaves room on a line makes a docstring of whatever is to be said. -/
theorem exists_docBlockLines (d : DocBlock) {n : Nat} (hn : n < lineWidth) :
    ∃ content, shownLines n d = .ok content ∧
      docBlockLines (spaces n) d = .ok (markedLines (spaces n) content) := by
  obtain ⟨content, hc⟩ := exists_shownLines d hn
  refine ⟨content, hc, ?_⟩
  rw [docBlockLines_eq, length_spaces, hc]
  rfl

theorem toList_joinLines_markedLines (indentation : String) (content : List String) :
    (joinLines (markedLines indentation content)).toList =
      indentation.toList ++ tripleQuote ++ (quotedText indentation content ++ tripleQuote) := by
  have hmark : (docstringMark indentation).toList = indentation.toList ++ tripleQuote :=
    String.toList_append
  have hfeed := toList_joinLines_feed (List.append_ne_nil_of_right_ne_nil
    (docstringMark indentation :: escapedLines indentation content)
    (List.cons_ne_nil (docstringMark indentation) []))
  have hnl : "\n".toList = ['\n'] := rfl
  rw [String.toList_append, hnl, feedLines_append, feedLines_cons, feedLines_cons, feedLines_nil,
    hmark] at hfeed
  refine List.append_cancel_right (hfeed.trans ?_)
  simp only [quotedText, List.append_assoc, List.cons_append]

/-- Behind its opening quotes a docstring is read to the three quotes at its very end. With the
escapes taken back it is a line feed, the lines that are to be said, indented and each with a line
feed behind it, and the indent. -/
theorem docstring_decodes (d : DocBlock) {n : Nat} (hn : n < lineWidth) :
    ∃ content lines text, shownLines n d = .ok content ∧ docBlockLines (spaces n) d = .ok lines ∧
      (joinLines lines).toList = (spaces n).toList ++ tripleQuote ++ (text ++ tripleQuote) ∧
      readDocstring (text ++ tripleQuote) = some (text, []) ∧
      unescapeDocstring text =
        '\n' :: feedLines (content.map (indented (spaces n))) ++ (spaces n).toList := by
  have hi := isPlain_spaces n
  obtain ⟨content, hc, hlines⟩ := exists_docBlockLines d hn
  have hread := readDocstring_quotedText hi content []
  rw [List.append_nil] at hread
  exact ⟨content, _, quotedText (spaces n) content, hc, hlines, toList_joinLines_markedLines _ _,
    hread, unescapeDocstring_quotedText hi content⟩

def shouting : DocBlock :=
  { summary := some "say \"\"\"\"hi\\\"\"\"", tags := [⟨"return", "\\\\"⟩] }

theorem shouting_decodes : ∃ lines text, docBlockLines (spaces 2) shouting = .ok lines ∧
    (joinLines lines).toList = "  \"\"\"".toList ++ (text ++ tripleQuote) ∧
    readDocstring (text ++ tripleQuote) = some (text, []) ∧
    String.ofList (unescapeDocstring text) =
      "\n  say \"\"\"\"hi\\\"\"\"\n\n  @return \\\\\n  " := by
  obtain ⟨content, lines, text, hc, hl, hj, hr, hu⟩ := docstring_decodes shouting (n := 2) (by decide)
  cases hc
  refine ⟨lines, text, hl, hj, hr, ?_⟩
  rw [hu]
  decide

end Source

end ClientGen
