import ClientGen.Proofs.DocstringContent
import Mathlib.Data.List.Flatten

namespace ClientGen

namespace Text

theorem cutLength_le (room : Nat) (c : Chunk) : cutLength room c ≤ room := by
  unfold cutLength
  split
  · exact Nat.le_refl room
  · next before hd =>
    have hsub := (List.dropWhile_sublist (l := (c.take room).reverse) (· != '-')).length_le
    rw [hd, List.length_cons, List.length_reverse, List.length_take] at hsub
    split <;> omega

theorem length_takeFitting_le (room : Nat) (cs : List Chunk) :
    (takeFitting room cs).1.flatten.length ≤ room := by
  induction cs generalizing room with
  | nil => exact Nat.zero_le room
  | cons c cs ih =>
    have hrest := ih (room - c.length)
    unfold takeFitting
    split
    · rw [List.flatten_cons, List.length_append]
      omega
    · exact Nat.zero_le room

theorem takeFitting_of_fits {room : Nat} {cs : List Chunk} (h : cs.flatten.length ≤ room) :
    takeFitting room cs = (cs, []) := by
  induction cs generalizing room with
  | nil => rfl
  | cons c cs ih =>
    rw [List.flatten_cons, List.length_append] at h
    rw [takeFitting, if_pos (Nat.le_of_add_right_le h), ih (by omega)]

theorem length_takeLine_le (width : Nat) (cs : List Chunk) :
    (takeLine width cs).1.flatten.length ≤ width := by
  have hfit := length_takeFitting_le width cs
  unfold takeLine
  cases htake : takeFitting width cs with
  | mk line rest =>
    rw [htake] at hfit
    cases rest with
    | nil => exact hfit
    | cons c rest =>
      have hcut := cutLength_le (width - line.flatten.length) c
      change line.flatten.length ≤ width at hfit
      simp only
      split
      · rw [List.flatten_append, List.flatten_singleton, List.length_append, List.length_take]
        omega
      · exact hfit

theorem dropBlankHead_sublist (cs : List Chunk) : (dropBlankHead cs).Sublist cs := by
  cases cs with
  | nil => exact List.Sublist.refl _
  | cons c cs =>
    rw [dropBlankHead]
    split
    · exact List.sublist_cons_self c cs
    · exact List.Sublist.refl _

theorem dropBlankLast_sublist (cs : List Chunk) : (dropBlankLast cs).Sublist cs := by
  have h := (dropBlankHead_sublist cs.reverse).reverse
  rwa [List.reverse_reverse] at h

theorem openLine_sublist (started : Bool) (cs : List Chunk) : (openLine started cs).Sublist cs := by
  rw [openLine]
  split
  · exact dropBlankHead_sublist cs
  · exact List.Sublist.refl _

theorem length_of_mem_fillLines {width : Nat} (hw : 0 < width) (started : Bool) (cs : List Chunk) :
    ∀ line ∈ fillLines width hw started cs, line.length ≤ width := by
  induction started, cs using fillLines.induct width hw with
  | case1 started cs h =>
    rw [fillLines, dif_pos h]
    exact fun _ hline => nomatch hline
  | case2 started cs h hblank ih =>
    rw [fillLines, dif_neg h]
    simp only [hblank]
    exact ih
  | case3 started cs h hline ih =>
    rw [fillLines, dif_neg h]
    split
    · next hblank => exact absurd hblank hline
    · intro line hmem
      rcases List.mem_cons.1 hmem with rfl | hmem
      · have hkept := (dropBlankLast_sublist (takeLine width (openLine started cs)).1).flatten
        exact Nat.le_trans hkept.length_le (length_takeLine_le width _)
      · exact ih line hmem

theorem fillLines_of_fits {width : Nat} (hw : 0 < width) {cs : List Chunk}
    (hfit : cs.flatten.length ≤ width) (hlast : dropBlankLast cs ≠ []) :
    fillLines width hw false cs = [(dropBlankLast cs).flatten] := by
  have hne : cs ≠ [] := fun h => hlast (by rw [h]; rfl)
  have htake : takeLine width cs = (cs, []) := by rw [takeLine, takeFitting_of_fits hfit]
  have hopen : openLine false cs = cs := rfl
  rw [fillLines, hopen, dif_neg hne, htake]
  split
  · next hblank => exact absurd hblank hlast
  · rw [fillLines, dif_pos]
    rfl

theorem flatten_takeFitting (room : Nat) (cs : List Chunk) :
    (takeFitting room cs).1.flatten ++ (takeFitting room cs).2.flatten = cs.flatten := by
  induction cs generalizing room with
  | nil => rfl
  | cons c cs ih =>
    unfold takeFitting
    split
    · rw [List.flatten_cons, List.append_assoc, ih, List.flatten_cons]
    · rfl

theorem flatten_takeLine (width : Nat) (cs : List Chunk) :
    (takeLine width cs).1.flatten ++ (takeLine width cs).2.flatten = cs.flatten := by
  have hfit := flatten_takeFitting width cs
  unfold takeLine
  cases htake : takeFitting width cs with
  | mk line rest =>
    rw [htake] at hfit
    cases rest with
    | nil => exact hfit
    | cons c rest =>
      simp only
      split
      · rw [← hfit, List.flatten_append, List.flatten_singleton, List.flatten_cons, List.append_assoc,
          ← List.append_assoc (c.take _), List.take_append_drop, List.flatten_cons]
      · exact hfit

/-- Wrapping leaves characters out, and adds none. -/
theorem flatten_fillLines_sublist {width : Nat} (hw : 0 < width) (started : Bool)
    (cs : List Chunk) : (fillLines width hw started cs).flatten.Sublist cs.flatten := by
  have hopen := (openLine_sublist started cs).flatten
  induction started, cs using fillLines.induct width hw with
  | case1 started cs h =>
    rw [fillLines, dif_pos h]
    exact List.nil_sublist _
  | case2 started cs h hblank ih =>
    have hrest := ih (openLine_sublist started _).flatten
    rw [fillLines, dif_neg h]
    simp only [hblank]
    rw [← flatten_takeLine width (openLine started cs)] at hopen
    exact hrest.trans ((List.sublist_append_right _ _).trans hopen)
  | case3 started cs h hline ih =>
    have hrest := ih (openLine_sublist true _).flatten
    rw [fillLines, dif_neg h]
    rw [← flatten_takeLine width (openLine started cs)] at hopen
    split
    · next hblank => exact absurd hblank hline
    · rw [List.flatten_cons]
      exact ((dropBlankLast_sublist _).flatten.append hrest).trans hopen

theorem flatten_chunksAfter (before cs : List Char) : (chunksAfter before cs).flatten = cs := by
  induction cs generalizing before with
  | nil => rfl
  | cons c cs ih =>
    have hrest := ih (c :: before)
    rw [chunksAfter]
    split
    · next hnil =>
      rw [hnil] at hrest
      rw [← hrest]
      rfl
    · next chunk chunks hcons =>
      rw [hcons] at hrest
      split
      · rw [List.flatten_cons, hrest]
        rfl
      · rw [List.flatten_cons, List.cons_append, ← List.flatten_cons, hrest]

theorem mem_expandTabs {c : Char} {column : Nat} {cs : List Char} (h : c ∈ expandTabs column cs) :
    c = ' ' ∨ c ∈ cs := by
  induction cs generalizing column with
  | nil => cases h
  | cons d cs ih =>
    rw [expandTabs] at h
    split at h
    · rcases List.mem_append.1 h with h | h
      · exact .inl (List.eq_of_mem_replicate h)
      · exact (ih h).imp_right (List.mem_cons_of_mem d)
    · rcases List.mem_cons.1 h with rfl | h
      · exact .inr List.mem_cons_self
      · exact (ih h).imp_right (List.mem_cons_of_mem d)

theorem mem_plainSpaces {c : Char} {cs : List Char} (h : c ∈ plainSpaces cs) :
    c = ' ' ∨ c ∈ cs := by
  obtain ⟨d, hd, hc⟩ := List.mem_map.1 h
  split at hc
  · exact .inl hc.symm
  · exact hc ▸ mem_expandTabs hd

theorem length_of_mem_wrap {width : Nat} (hw : 0 < width) {cs line : List Char}
    (h : line ∈ wrap width hw cs) : line.length ≤ width :=
  length_of_mem_fillLines hw false _ line h

/-- A wrapped line is made of spaces and of what stands in the line that is wrapped. -/
theorem mem_of_mem_wrap {width : Nat} (hw : 0 < width) {cs line : List Char}
    (h : line ∈ wrap width hw cs) {c : Char} (hc : c ∈ line) : c = ' ' ∨ c ∈ cs := by
  apply mem_plainSpaces
  have hmem := (flatten_fillLines_sublist hw false (chunks (plainSpaces cs))).mem
    (List.mem_flatten_of_mem h hc)
  rwa [chunks, flatten_chunksAfter] at hmem

/-- How often three double quotes in a row stand in a text, counted from the left. -/
def tripleQuotes : List Char → Nat
  | [] => 0
  | '"' :: '"' :: '"' :: cs => tripleQuotes cs + 1
  | _ :: cs => tripleQuotes cs

/-- How many backslashes escaping adds to a text. -/
def escapeCost (cs : List Char) : Nat :=
  cs.count '\\' + 3 * tripleQuotes cs

theorem length_escapeDocstring (cs : List Char) :
    (escapeDocstring cs).length = cs.length + escapeCost cs := by
  rw [escapeCost]
  induction cs using escapeDocstring.induct with
  | case1 => rfl
  | case2 cs ih =>
    rw [escapeDocstring, tripleQuotes]
    simp only [List.length_cons, List.count_cons, ih]
    simp
    omega
  | case3 c cs hq ih =>
    rw [escapeDocstring, tripleQuotes, List.length_append, ih, List.length_cons]
    · by_cases hb : c = '\\'
      · simp [hb]
        omega
      · simp [hb]
        omega
    · exact hq
    · exact hq

theorem escapeCost_of_isPlain {cs : List Char} (h : isPlain cs = true) : escapeCost cs = 0 := by
  induction cs with
  | nil => rfl
  | cons c cs ih =>
    rw [isPlain, List.all_cons, Bool.and_eq_true, Bool.and_eq_true, bne_iff_ne, bne_iff_ne] at h
    obtain ⟨⟨hb, hq⟩, hcs⟩ := h
    rw [← ih hcs, escapeCost, escapeCost, List.count_cons_of_ne hb, tripleQuotes]
    exact fun _ hc _ => hq hc

end Text

namespace Source
open Text

/-- A wrapped line is as long as the width at most. -/
theorem length_of_mem_wrapLine {width : Nat} (hw : 0 < width) {given line : String}
    (h : line ∈ wrapLine width hw given) : line.length ≤ width := by
  rw [wrapLine] at h
  split at h
  · cases List.mem_singleton.1 h
    exact Nat.zero_le width
  · obtain ⟨cs, hcs, rfl⟩ := List.mem_map.1 h
    rw [String.length_ofList]
    exact length_of_mem_wrap hw hcs

theorem isPlain_of_mem_wrapLine {width : Nat} (hw : 0 < width) {given line : String}
    (hg : isPlain given.toList = true) (h : line ∈ wrapLine width hw given) :
    isPlain line.toList = true := by
  rw [wrapLine] at h
  split at h
  · cases List.mem_singleton.1 h
    rfl
  · obtain ⟨cs, hcs, rfl⟩ := List.mem_map.1 h
    rw [String.toList_ofList]
    refine List.all_eq_true.2 fun c hc => ?_
    rcases mem_of_mem_wrap hw hcs hc with rfl | hc
    · rfl
    · exact List.all_eq_true.1 hg c hc

theorem mem_shownLines {d : DocBlock} (hd : d.wordWrap = true) {n : Nat} (hn : n < lineWidth)
    {content : List String} (hc : shownLines n d = .ok content) {line : String}
    (h : line ∈ content) : ∃ given ∈ docLines d,
      line ∈ wrapLine (lineWidth - n) (Nat.sub_pos_of_lt hn) given := by
  rw [shownLines, if_pos hd, wrapLines] at hc
  split at hc
  · cases hc
    cases h
  · rw [dif_pos (Nat.sub_pos_of_lt hn)] at hc
    cases hc
    exact List.mem_flatMap.1 h

theorem length_escapedLine_le_iff {n : Nat} (hn : n ≤ lineWidth) (line : String) :
    (indented (spaces n) (escaped line)).length ≤ lineWidth ↔
      n + line.length + escapeCost line.toList ≤ lineWidth := by
  by_cases he : line = ""
  · rw [he]
    exact ⟨fun _ => hn, fun _ => Nat.zero_le lineWidth⟩
  · have hne : escaped line ≠ "" := fun h => he (eq_empty_of_escaped h)
    rw [indented, if_neg fun h => hne (eq_of_beq h), String.length_append, length_spaces, escaped,
      String.length_ofList, length_escapeDocstring, String.length_toList, Nat.add_assoc]

/-- What is to be said keeps to the width with its indent, and so does the docstring exactly if no
line has more escapes than there is room for behind it; in particular if it says no backslash and no
double quote. -/
theorem docBlockLines_within_iff {d : DocBlock} (hd : d.wordWrap = true) {n : Nat}
    (hn : n + 3 ≤ lineWidth) :
    ∃ content lines, shownLines n d = .ok content ∧ docBlockLines (spaces n) d = .ok lines ∧
      (∀ line ∈ content, n + line.length ≤ lineWidth) ∧
      ((∀ line ∈ lines, line.length ≤ lineWidth) ↔
        ∀ line ∈ content, n + line.length + escapeCost line.toList ≤ lineWidth) ∧
      ((∀ line ∈ docLines d, isPlain line.toList = true) →
        ∀ line ∈ lines, line.length ≤ lineWidth) := by
  have hlt : n < lineWidth := by omega
  obtain ⟨content, hc, hlines⟩ := exists_docBlockLines d hlt
  have hwithin : ∀ line ∈ content, n + line.length ≤ lineWidth := by
    intro line hline
    obtain ⟨given, -, hwrap⟩ := mem_shownLines hd hlt hc hline
    have hlength := length_of_mem_wrapLine _ hwrap
    omega
  have hmark : (docstringMark (spaces n)).length ≤ lineWidth := by
    rw [docstringMark, String.length_append, length_spaces]
    exact hn
  have hiff : (∀ line ∈ markedLines (spaces n) content, line.length ≤ lineWidth) ↔
      ∀ line ∈ content, n + line.length + escapeCost line.toList ≤ lineWidth := by
    simp only [markedLines, List.forall_mem_append, List.forall_mem_cons, escapedLines,
      List.forall_mem_map, length_escapedLine_le_iff (Nat.le_of_lt hlt)]
    exact ⟨fun h => h.1.2, fun h => ⟨⟨hmark, h⟩, hmark, fun _ hm => absurd hm List.not_mem_nil⟩⟩
  refine ⟨content, _, hc, hlines, hwithin, hiff, fun hplain => hiff.2 fun line hline => ?_⟩
  obtain ⟨given, hg, hwrap⟩ := mem_shownLines hd hlt hc hline
  rw [escapeCost_of_isPlain (isPlain_of_mem_wrapLine _ (hplain given hg) hwrap)]
  exact hwithin line hline

theorem prose_within : ∃ lines,
    docBlockLines (spaces 8)
      { details := some "Text that may be wrapped.\n\n- with a list", wordWrap := true } =
        .ok lines ∧
      ∀ line ∈ lines, line.length ≤ lineWidth := by
  obtain ⟨content, lines, -, hlines, -, -, hplain⟩ := docBlockLines_within_iff
    (d := { details := some "Text that may be wrapped.\n\n- with a list", wordWrap := true }) rfl
    (n := 8) (by decide)
  exact ⟨lines, hlines, hplain (by decide)⟩

def slashed : DocBlock :=
  { details := some (String.ofList (List.replicate 41 '\\')), wordWrap := true }

theorem shownLines_slashed :
    shownLines 8 slashed = .ok [String.ofList (List.replicate 41 '\\')] := by
  have hdoc : docLines slashed = [String.ofList (List.replicate 41 '\\')] := by decide +kernel
  have hchunks : chunks (plainSpaces (List.replicate 41 '\\')) = [List.replicate 41 '\\'] := by
    decide +kernel
  have hwrap : wrapLine 80 (by decide) (String.ofList (List.replicate 41 '\\')) =
      [String.ofList (List.replicate 41 '\\')] := by
    rw [wrapLine, String.toList_ofList, wrap, hchunks, fillLines_of_fits]
    · rfl
    · decide
    · decide
  rw [shownLines, hdoc]
  exact congrArg Except.ok ((List.flatMap_singleton _ _).trans hwrap)

theorem slashed_beyond : ∃ lines, docBlockLines (spaces 8) slashed = .ok lines ∧
    ∃ line ∈ lines, lineWidth < line.length := by
  refine ⟨markedLines (spaces 8) [String.ofList (List.replicate 41 '\\')], ?_, _,
    List.mem_cons_of_mem _ List.mem_cons_self, Nat.lt_of_not_le ?_⟩
  · rw [docBlockLines_eq, length_spaces, shownLines_slashed]
    rfl
  · rw [length_escapedLine_le_iff (by decide)]
    decide

end Source

end ClientGen
