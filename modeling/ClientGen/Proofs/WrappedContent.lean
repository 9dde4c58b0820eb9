import ClientGen.Proofs.LineWidth

namespace ClientGen

namespace Text
open Unicode

/-- The characters of a text that are not blank. -/
def visible (cs : List Char) : List Char :=
  cs.filter fun c => !isBlank c

theorem visible_append (cs ds : List Char) : visible (cs ++ ds) = visible cs ++ visible ds :=
  List.filter_append cs ds

theorem visible_of_blank {cs : List Char} (h : ∀ c ∈ cs, isBlank c = true) : visible cs = [] := by
  apply List.filter_eq_nil_iff.2
  intro c hc
  rw [h c hc]
  decide

theorem visible_cons_of_blank {c : Char} (h : isBlank c = true) (cs : List Char) :
    visible (c :: cs) = visible cs :=
  List.filter_cons_of_neg (by rw [h]; decide)

theorem visible_of_isBlankText {cs : List Char} (h : isBlankText cs = true) : visible cs = [] :=
  visible_of_blank (List.all_eq_true.1 h)

theorem visible_replicate (n : Nat) : visible (List.replicate n ' ') = [] :=
  visible_of_blank fun _ hc => by rw [List.eq_of_mem_replicate hc]; decide

theorem visible_cons_congr (c : Char) {cs ds : List Char} (h : visible cs = visible ds) :
    visible (c :: cs) = visible (c :: ds) := by
  rw [← List.singleton_append, visible_append, h, ← visible_append, List.singleton_append]

theorem isBlank_of_isWrapSpace {c : Char} (h : isWrapSpace c = true) : isBlank c = true := by
  rw [isWrapSpace, Bool.or_eq_true, beq_iff_eq] at h
  rcases h with rfl | h
  · decide
  · rw [isBlank, h]
    rfl

theorem visible_expandTabs (column : Nat) (cs : List Char) :
    visible (expandTabs column cs) = visible cs := by
  induction cs generalizing column with
  | nil => rfl
  | cons c cs ih =>
    rw [expandTabs]
    split
    · next hc =>
      rw [eq_of_beq hc, visible_append, visible_replicate, ih, visible_cons_of_blank (by decide)]
      rfl
    · exact visible_cons_congr c (ih _)

theorem visible_plainSpaces (cs : List Char) : visible (plainSpaces cs) = visible cs := by
  have hmap : ∀ ds : List Char,
      visible (ds.map fun c => if isWrapSpace c then ' ' else c) = visible ds := by
    intro ds
    induction ds with
    | nil => rfl
    | cons c ds ih =>
      rw [List.map_cons]
      split
      · next hc =>
        rw [visible_cons_of_blank (by decide), visible_cons_of_blank (isBlank_of_isWrapSpace hc), ih]
      · exact visible_cons_congr c ih
  rw [plainSpaces, hmap, visible_expandTabs]

theorem visible_dropBlankHead (cs : List Chunk) :
    visible (dropBlankHead cs).flatten = visible cs.flatten := by
  cases cs with
  | nil => rfl
  | cons c cs =>
    rw [dropBlankHead]
    split
    · next hc => rw [List.flatten_cons, visible_append, visible_of_isBlankText hc, List.nil_append]
    · rfl

theorem visible_dropBlankLast (cs : List Chunk) :
    visible (dropBlankLast cs).flatten = visible cs.flatten := by
  rcases List.eq_nil_or_concat cs with rfl | ⟨front, c, rfl⟩
  · rfl
  · rw [List.concat_eq_append, dropBlankLast, List.reverse_append, List.reverse_singleton,
      List.singleton_append, dropBlankHead]
    split
    · next hc =>
      rw [List.reverse_reverse, List.flatten_append, List.flatten_singleton, visible_append,
        visible_of_isBlankText hc, List.append_nil]
    · rw [List.reverse_cons, List.reverse_reverse]

theorem visible_openLine (started : Bool) (cs : List Chunk) :
    visible (openLine started cs).flatten = visible cs.flatten := by
  cases started with
  | false => rfl
  | true => exact visible_dropBlankHead cs

/-- Filling lines drops blank chunks only, however the others are cut. -/
theorem visible_fillLines {width : Nat} (hw : 0 < width) (started : Bool) (cs : List Chunk) :
    visible (fillLines width hw started cs).flatten = visible cs.flatten := by
  induction started, cs using fillLines.induct width hw with
  | case1 started cs h =>
    rw [fillLines, dif_pos h, ← visible_openLine started cs, h]
  | case2 started cs h hblank ih =>
    have hline := visible_dropBlankLast (takeLine width (openLine started cs)).1
    rw [hblank] at hline
    rw [fillLines, dif_neg h]
    simp only [hblank]
    rw [ih, ← visible_openLine started cs, ← flatten_takeLine width (openLine started cs),
      visible_append, ← hline]
    rfl
  | case3 started cs h hline ih =>
    rw [fillLines, dif_neg h]
    split
    · next hblank => exact absurd hblank hline
    · rw [List.flatten_cons, visible_append, ih, visible_dropBlankLast, ← visible_append,
        flatten_takeLine, visible_openLine]

theorem visible_wrap {width : Nat} (hw : 0 < width) (cs : List Char) :
    visible (wrap width hw cs).flatten = visible cs := by
  rw [wrap, visible_fillLines, chunks, flatten_chunksAfter, visible_plainSpaces]

end Text

namespace Source
open Text

def visibleIn (lines : List String) : List Char :=
  visible (lines.flatMap String.toList)

theorem visibleIn_cons (line : String) (lines : List String) :
    visibleIn (line :: lines) = visible line.toList ++ visibleIn lines :=
  visible_append _ _

theorem visibleIn_append (front back : List String) :
    visibleIn (front ++ back) = visibleIn front ++ visibleIn back := by
  rw [visibleIn, List.flatMap_append, visible_append]
  rfl

theorem visibleIn_wrapLine {width : Nat} (hw : 0 < width) (line : String) :
    visibleIn (wrapLine width hw line) = visible line.toList := by
  have hwrap := visible_wrap hw line.toList
  rw [wrapLine]
  split
  · next hnone =>
    rw [hnone] at hwrap
    exact hwrap
  · rw [visibleIn, List.flatMap_map, ← hwrap]
    simp only [String.toList_ofList]
    rw [List.flatMap_id']

theorem visibleIn_flatMap_wrapLine {width : Nat} (hw : 0 < width) (lines : List String) :
    visibleIn (lines.flatMap (wrapLine width hw)) = visibleIn lines := by
  induction lines with
  | nil => rfl
  | cons line lines ih =>
    rw [List.flatMap_cons, visibleIn_append, visibleIn_wrapLine, ih, visibleIn_cons]

theorem visibleIn_shownLines {d : DocBlock} {n : Nat} {content : List String}
    (h : shownLines n d = .ok content) : visibleIn content = visibleIn (docLines d) := by
  rw [shownLines] at h
  split at h
  · rw [wrapLines] at h
    split at h
    · next hnone =>
      cases h
      rw [List.isEmpty_iff.1 hnone]
    · split at h
      · cases h
        exact visibleIn_flatMap_wrapLine _ _
      · cases h
  · cases h
    rfl

theorem visible_indented (n : Nat) (line : String) :
    visible (indented (spaces n) line).toList = visible line.toList := by
  rw [indented]
  split
  · next h => rw [eq_of_beq h]
  · rw [String.toList_append, visible_append, spaces, String.toList_ofList, visible_replicate]
    rfl

theorem visible_feedLines_indented (n : Nat) (lines : List String) :
    visible (feedLines (lines.map (indented (spaces n)))) = visibleIn lines := by
  induction lines with
  | nil => rfl
  | cons line lines ih =>
    rw [List.map_cons, feedLines_cons, visible_append, visible_indented,
      visible_cons_of_blank (by decide), ih, visibleIn_cons]

/-- What the lines of a docstring say from behind the quotes that open it to the quotes at their
end, with the escapes taken back; `none` if that is not where the docstring ends. -/
def saidBy? (lines : List String) : Option (List Char) :=
  match (joinLines lines).toList.dropWhile (· == ' ') with
  | '"' :: '"' :: '"' :: behind =>
    match readDocstring behind with
    | some (text, []) => some (unescapeDocstring text)
    | _ => none
  | _ => none

theorem saidBy?_markedLines (n : Nat) (content : List String) :
    saidBy? (markedLines (spaces n) content) =
      some ('\n' :: feedLines (content.map (indented (spaces n))) ++ (spaces n).toList) := by
  have hi := isPlain_spaces n
  have hspaces : ∀ c ∈ (spaces n).toList, (c == ' ') = true := by
    intro c hc
    rw [spaces, String.toList_ofList] at hc
    exact beq_iff_eq.2 (List.eq_of_mem_replicate hc)
  have hopen : (joinLines (markedLines (spaces n) content)).toList.dropWhile (· == ' ') =
      tripleQuote ++ (quotedText (spaces n) content ++ tripleQuote) := by
    rw [toList_joinLines_markedLines, List.append_assoc, List.dropWhile_append_of_pos hspaces]
    rfl
  have hread := readDocstring_quotedText hi content []
  rw [List.append_nil] at hread
  rw [saidBy?, hopen]
  simp only [tripleQuote, List.cons_append, List.nil_append] at hread ⊢
  rw [hread]
  exact congrArg some (unescapeDocstring_quotedText hi content)

/-- The docstring of a documentation shows its visible characters, wrapped or not. -/
theorem exists_saidBy (d : DocBlock) {n : Nat} (hn : n < lineWidth) :
    ∃ lines text, docBlockLines (spaces n) d = .ok lines ∧ saidBy? lines = some text ∧
      visible text = visibleIn (docLines d) := by
  obtain ⟨content, hc, hlines⟩ := exists_docBlockLines d hn
  refine ⟨_, _, hlines, saidBy?_markedLines n content, ?_⟩
  have hend : visible (spaces n).toList = [] := by
    rw [spaces, String.toList_ofList, visible_replicate]
  rw [List.cons_append, visible_cons_of_blank (by decide), visible_append,
    visible_feedLines_indented, hend, List.append_nil, visibleIn_shownLines hc]

/-- A docstring that is wrapped and the same docstring that is not are read to their ends, and say
the same but for blank characters: what is to be said. -/
theorem wrapping_keeps_visible (d : DocBlock) {n : Nat} (hn : n < lineWidth) :
    ∃ wrapped plain text text',
      docBlockLines (spaces n) { d with wordWrap := true } = .ok wrapped ∧
      docBlockLines (spaces n) { d with wordWrap := false } = .ok plain ∧
      saidBy? wrapped = some text ∧ saidBy? plain = some text' ∧
      visible text = visible text' ∧ visible text' = visibleIn (docLines d) := by
  obtain ⟨wrapped, text, hwrapped, hsaid, hvisible⟩ :=
    exists_saidBy { d with wordWrap := true } hn
  obtain ⟨plain, text', hplain, hsaid', hvisible'⟩ :=
    exists_saidBy { d with wordWrap := false } hn
  exact ⟨wrapped, plain, text, text', hwrapped, hplain, hsaid, hsaid',
    hvisible.trans hvisible'.symm, hvisible'⟩

def cramped : DocBlock :=
  { summary := some "\tsay \"\"\"\"hi\\\\\\\"\"\"", details := some "well-known -- a\tword\n\n  of it",
    tags := [⟨"return", "\\|int"⟩] }

theorem cramped_keeps_visible :
    ∃ wrapped plain text text',
      docBlockLines (spaces 84) { cramped with wordWrap := true } = .ok wrapped ∧
      docBlockLines (spaces 84) cramped = .ok plain ∧
      saidBy? wrapped = some text ∧ saidBy? plain = some text' ∧
      visible text = visible text' ∧
      String.ofList (visible text) =
        "say\"\"\"\"hi\\\\\\\"\"\"well-known--awordofit@return\\|int" := by
  obtain ⟨wrapped, plain, text, text', hwrapped, hplain, hsaid, hsaid', halike, hvisible⟩ :=
    wrapping_keeps_visible cramped (n := 84) (by decide)
  refine ⟨wrapped, plain, text, text', hwrapped, hplain, hsaid, hsaid', halike, ?_⟩
  rw [halike, hvisible]
  decide +kernel

end Source

end ClientGen
