import ClientGen.Identifier
import ClientGen.Proofs.Characters
import ClientGen.Text.Lines
import ClientGen.Text.Quoted

namespace ClientGen.Text
open Unicode

/-- Whether a text holds no character that ends a line. -/
def IsLine (s : String) : Prop :=
  ∀ c ∈ s.toList, isLineBreak c = false

instance (s : String) : Decidable (IsLine s) :=
  List.decidableBAll _ s.toList

theorem forall_mem_append {q : Char → Prop} {s t : String} (hs : ∀ c ∈ s.toList, q c)
    (ht : ∀ c ∈ t.toList, q c) : ∀ c ∈ (s ++ t).toList, q c := by
  intro c hc
  rw [String.toList_append] at hc
  rcases List.mem_append.1 hc with hc | hc
  · exact hs c hc
  · exact ht c hc

theorem IsLine.append {s t : String} (hs : IsLine s) (ht : IsLine t) : IsLine (s ++ t) :=
  forall_mem_append hs ht

theorem mem_intercalate {α : Type} {a : α} {sep : List α} {pieces : List (List α)}
    (h : a ∈ sep.intercalate pieces) : a ∈ sep ∨ ∃ piece ∈ pieces, a ∈ piece := by
  induction pieces with
  | nil => cases h
  | cons piece pieces ih =>
    cases pieces with
    | nil =>
      rw [List.intercalate_singleton] at h
      exact .inr ⟨piece, List.mem_cons_self, h⟩
    | cons next pieces =>
      rw [List.intercalate_cons_cons, List.append_assoc, List.mem_append, List.mem_append] at h
      rcases h with h | h | h
      · exact .inr ⟨piece, List.mem_cons_self, h⟩
      · exact .inl h
      · rcases ih h with hsep | ⟨x, hx, ha⟩
        · exact .inl hsep
        · exact .inr ⟨x, List.mem_cons_of_mem piece hx, ha⟩

theorem forall_mem_intercalate {q : Char → Prop} {sep : String} {pieces : List String}
    (hsep : ∀ c ∈ sep.toList, q c) (h : ∀ piece ∈ pieces, ∀ c ∈ piece.toList, q c) :
    ∀ c ∈ (sep.intercalate pieces).toList, q c := by
  intro c hc
  rw [String.toList_intercalate] at hc
  rcases mem_intercalate hc with hc | ⟨piece, hpiece, hc⟩
  · exact hsep c hc
  · obtain ⟨s, hs, rfl⟩ := List.mem_map.1 hpiece
    exact h s hs c hc

theorem isLine_intercalate {sep : String} {pieces : List String} (hsep : IsLine sep)
    (h : ∀ piece ∈ pieces, IsLine piece) : IsLine (sep.intercalate pieces) :=
  forall_mem_intercalate hsep h

theorem isLine_of_isIdContinue {s : String} (h : ∀ c ∈ s.toList, isIdContinue c = true) :
    IsLine s :=
  fun c hc => isLineBreak_of_isIdContinue (h c hc)

theorem isIdContinue_of_isIdentifier {s : String} (h : isIdentifier s = true) :
    ∀ c ∈ s.toList, isIdContinue c = true := by
  rw [isIdentifier] at h
  cases hs : s.toList with
  | nil => exact fun c hc => nomatch hc
  | cons d cs =>
    rw [hs] at h
    obtain ⟨hd, hcs⟩ := Bool.and_eq_true_iff.1 h
    intro c hc
    rcases List.mem_cons.1 hc with rfl | hc
    · exact isIdContinue_of_isIdStart hd
    · exact List.all_eq_true.1 hcs c hc

theorem isLine_of_isIdentifier {s : String} (h : isIdentifier s = true) : IsLine s :=
  isLine_of_isIdContinue (isIdContinue_of_isIdentifier h)

theorem isLineBreak_hexDigits {width n : Nat} :
    ∀ c ∈ hexDigits width n, isLineBreak c = false := by
  induction width generalizing n with
  | zero => exact fun c hc => nomatch hc
  | succ width ih =>
    intro c hc
    rcases List.mem_append.1 hc with hc | hc
    · exact ih c hc
    · cases List.mem_singleton.1 hc
      have hd : ∀ k < 16, isLineBreak (hexDigit k) = false := by decide
      exact hd (n % 16) (Nat.mod_lt n (by decide))

theorem isLineBreak_codePointEscape {n : Nat} :
    ∀ c ∈ codePointEscape n, isLineBreak c = false := by
  have hx {c d : Char} {width : Nat} (hd : isLineBreak d = false)
      (hc : c ∈ '\\' :: d :: hexDigits width n) : isLineBreak c = false := by
    rcases List.mem_cons.1 hc with rfl | hc
    · decide
    · rcases List.mem_cons.1 hc with rfl | hc
      · exact hd
      · exact isLineBreak_hexDigits c hc
  intro c hc
  rw [codePointEscape] at hc
  split at hc
  · exact hx (by decide) hc
  · split at hc
    · exact hx (by decide) hc
    · exact hx (by decide) hc

/-- Whatever a character is, it ends no line once it is quoted. -/
theorem isLineBreak_quoteChar {mark : Char} (hm : isLineBreak mark = false) {c : Char} :
    ∀ d ∈ quoteChar mark c, isLineBreak d = false := by
  intro d hd
  rw [quoteChar] at hd
  split at hd
  · next hc =>
    rcases List.mem_cons.1 hd with rfl | hd
    · decide
    · cases List.mem_singleton.1 hd
      rcases (Bool.or_eq_true_iff).1 hc with he | he
      · rwa [eq_of_beq he]
      · rw [eq_of_beq he]
        decide
  · have hsimple : ∀ a, isLineBreak a = false → d ∈ ['\\', a] → isLineBreak d = false := by
      intro a ha hd
      rcases List.mem_cons.1 hd with rfl | hd
      · decide
      · cases List.mem_singleton.1 hd
        exact ha
    split at hd
    · exact hsimple 'n' (by decide) hd
    split at hd
    · exact hsimple 'r' (by decide) hd
    split at hd
    · exact hsimple 't' (by decide) hd
    split at hd
    · next hp =>
      cases List.mem_singleton.1 hd
      exact isLineBreak_of_isPrintable hp
    · exact isLineBreak_codePointEscape d hd

theorem isLineBreak_quoteMark (cs : List Char) : isLineBreak (quoteMark cs) = false := by
  rw [quoteMark]
  split <;> decide

theorem isLine_quoted (s : String) : IsLine (quoted s) := by
  intro c hc
  have hm := isLineBreak_quoteMark s.toList
  rw [quoted, String.toList_ofList, quoteChars] at hc
  rcases List.mem_cons.1 hc with rfl | hc
  · exact hm
  · rcases List.mem_append.1 hc with hc | hc
    · obtain ⟨d, -, hc⟩ := List.mem_flatMap.1 hc
      exact isLineBreak_quoteChar hm c hc
    · cases List.mem_singleton.1 hc
      exact hm

theorem not_isLineBreak_of_mem_extendFirst {c : Char} (hc : isLineBreak c = false)
    {lines : List (List Char)} (h : ∀ line ∈ lines, ∀ d ∈ line, isLineBreak d = false) :
    ∀ line ∈ extendFirst c lines, ∀ d ∈ line, isLineBreak d = false := by
  cases lines with
  | nil =>
    intro line hline d hd
    cases List.mem_singleton.1 hline
    cases List.mem_singleton.1 hd
    exact hc
  | cons first lines =>
    intro line hline d hd
    rcases List.mem_cons.1 hline with rfl | hline
    · rcases List.mem_cons.1 hd with rfl | hd
      · exact hc
      · exact h first List.mem_cons_self d hd
    · exact h line (List.mem_cons_of_mem first hline) d hd

theorem not_isLineBreak_of_mem_splitLines (cs : List Char) :
    ∀ line ∈ splitLines cs, ∀ d ∈ line, isLineBreak d = false := by
  have hcons : ∀ {lines : List (List Char)}, (∀ line ∈ lines, ∀ d ∈ line, isLineBreak d = false) →
      ∀ line ∈ [] :: lines, ∀ d ∈ line, isLineBreak d = false := by
    intro lines h line hline
    rcases List.mem_cons.1 hline with rfl | hline
    · exact fun d hd => nomatch hd
    · exact h line hline
  induction cs using splitLines.induct with
  | case1 => exact fun line hline => nomatch hline
  | case2 cs ih =>
    rw [splitLines]
    exact hcons ih
  | case3 c cs hcrlf hbreak ih =>
    rw [splitLines, if_pos hbreak]
    · exact hcons ih
    · exact hcrlf
  | case4 c cs hcrlf hbreak ih =>
    rw [splitLines, if_neg hbreak]
    · exact not_isLineBreak_of_mem_extendFirst (Bool.eq_false_iff.2 hbreak) ih
    · exact hcrlf

theorem isLine_of_mem_linesOf {s line : String} (h : line ∈ linesOf s) : IsLine line := by
  obtain ⟨cs, hcs, rfl⟩ := List.mem_map.1 h
  intro c hc
  rw [String.toList_ofList] at hc
  exact not_isLineBreak_of_mem_splitLines s.toList cs hcs c hc

theorem splitLines_of_not_isLineBreak {cs : List Char} (hne : cs ≠ [])
    (h : ∀ c ∈ cs, isLineBreak c = false) : splitLines cs = [cs] := by
  induction cs with
  | nil => exact absurd rfl hne
  | cons c cs ih =>
    have hc := h c List.mem_cons_self
    have hcrlf : ∀ rest, c = '\r' → cs = '\n' :: rest → False := by
      intro rest he
      rw [he] at hc
      exact absurd hc (by decide)
    rw [splitLines, if_neg (Bool.eq_false_iff.1 hc)]
    · cases cs with
      | nil => rfl
      | cons d cs =>
        rw [ih (List.cons_ne_nil d cs) fun x hx => h x (List.mem_cons_of_mem c hx)]
        rfl
    · exact hcrlf

theorem linesOf_of_isLine {s : String} (hne : s ≠ "") (h : IsLine s) : linesOf s = [s] := by
  have hl : s.toList ≠ [] := fun he => hne (String.toList_eq_nil_iff.1 he)
  rw [linesOf, splitLines_of_not_isLineBreak hl h, List.map_singleton, String.ofList_toList]

theorem splitLines_append_feed {cs : List Char} (h : ∀ c ∈ cs, isLineBreak c = false)
    (rest : List Char) : splitLines (cs ++ '\n' :: rest) = cs :: splitLines rest := by
  induction cs with
  | nil =>
    rw [List.nil_append, splitLines, if_pos (by decide)]
    intro more hc
    exact absurd hc (by decide)
  | cons c cs ih =>
    have hc := h c List.mem_cons_self
    rw [List.cons_append, splitLines, if_neg (Bool.eq_false_iff.1 hc),
      ih fun d hd => h d (List.mem_cons_of_mem c hd)]
    · rfl
    · rintro more rfl -
      exact absurd hc (by decide)

/-- Lines that are joined are read again, unless the last one is empty. -/
theorem linesOf_joinLines {lines : List String} (h : ∀ line ∈ lines, IsLine line)
    (hlast : lines.getLast? ≠ some "") : linesOf (joinLines lines) = lines := by
  induction lines with
  | nil => rfl
  | cons line lines ih =>
    have hline := h line List.mem_cons_self
    cases lines with
    | nil =>
      rw [joinLines, String.intercalate_singleton]
      exact linesOf_of_isLine (fun he => hlast (congrArg some he)) hline
    | cons next lines =>
      have hrest := ih (fun l hl => h l (List.mem_cons_of_mem line hl)) hlast
      have hjoin : (joinLines (line :: next :: lines)).toList =
          line.toList ++ '\n' :: (joinLines (next :: lines)).toList := by
        rw [joinLines, String.intercalate_cons_cons, ← joinLines, String.append_assoc,
          String.toList_append, String.toList_append]
        rfl
      rw [linesOf, hjoin, splitLines_append_feed hline, List.map_cons, String.ofList_toList,
        ← linesOf, hrest]

theorem IsLine.trimmedEnd {s : String} (h : IsLine s) : IsLine (trimmedEnd s) := by
  intro c hc
  rw [Text.trimmedEnd, String.toList_ofList, trimEnd, List.mem_reverse] at hc
  exact h c (List.mem_reverse.1 ((List.dropWhile_sublist isBlank).mem hc))

/-- Whether a text ends with a character that is not blank. -/
def EndsVisibly (s : String) : Prop :=
  ∃ cs c, s.toList = cs ++ [c] ∧ isBlank c = false

theorem trimmedEnd_of_endsVisibly {s : String} (h : EndsVisibly s) : trimmedEnd s = s := by
  obtain ⟨cs, c, hs, hc⟩ := h
  have ht : trimEnd s.toList = s.toList := by
    have hr : (cs ++ [c]).reverse = c :: cs.reverse := List.reverse_concat
    rw [hs, trimEnd, hr, List.dropWhile_cons_of_neg (Bool.eq_false_iff.1 hc), ← hr,
      List.reverse_reverse]
  rw [trimmedEnd, ht, String.ofList_toList]

theorem EndsVisibly.append (s : String) {t : String} (h : EndsVisibly t) :
    EndsVisibly (s ++ t) := by
  obtain ⟨cs, c, ht, hc⟩ := h
  exact ⟨s.toList ++ cs, c, by rw [String.toList_append, ht, List.append_assoc], hc⟩

theorem EndsVisibly.joinLines (lines : List String) {last : String} (h : EndsVisibly last) :
    EndsVisibly (joinLines (lines ++ [last])) := by
  cases lines with
  | nil =>
    rw [List.nil_append, Text.joinLines, String.intercalate_singleton]
    exact h
  | cons line lines =>
    rw [Text.joinLines, String.intercalate_append_of_ne_nil (List.cons_ne_nil line lines)
      (List.cons_ne_nil last []), String.intercalate_singleton]
    exact h.append _

def splitFeeds (s : String) : List String :=
  (s.toList.splitOn '\n').map String.ofList

theorem splitFeeds_joinLines {lines : List String} (hne : lines ≠ [])
    (h : ∀ line ∈ lines, IsLine line) : splitFeeds (joinLines lines) = lines := by
  have hfeed : ∀ cs ∈ lines.map String.toList, '\n' ∉ cs := by
    intro cs hcs hn
    obtain ⟨line, hline, rfl⟩ := List.mem_map.1 hcs
    have hb := h line hline '\n' hn
    exact absurd hb (by decide)
  have hnl : "\n".toList = ['\n'] := rfl
  rw [splitFeeds, joinLines, String.toList_intercalate, hnl, List.splitOn_intercalate '\n' hfeed
    (fun he => hne (List.map_eq_nil_iff.1 he)), List.map_map]
  have hid : String.ofList ∘ String.toList = id := funext fun s => String.ofList_toList
  rw [hid, List.map_id]

theorem splitFeeds_joinLines_feed {lines : List String} (hne : lines ≠ [])
    (h : ∀ line ∈ lines, IsLine line) :
    splitFeeds (joinLines lines ++ "\n") = lines ++ [""] := by
  have hj : joinLines lines ++ "\n" = joinLines (lines ++ [""]) := by
    rw [joinLines, joinLines, String.intercalate_append_of_ne_nil hne (List.cons_ne_nil "" []),
      String.intercalate_singleton, String.append_empty]
  rw [hj]
  apply splitFeeds_joinLines
  · exact List.append_ne_nil_of_right_ne_nil lines (List.cons_ne_nil "" [])
  · intro line hline
    rcases List.mem_append.1 hline with hline | hline
    · exact h line hline
    · cases List.mem_singleton.1 hline
      decide

def feedLines (lines : List String) : List Char :=
  lines.flatMap fun line => line.toList ++ ['\n']

theorem feedLines_nil : feedLines [] = [] :=
  rfl

theorem feedLines_cons (line : String) (lines : List String) :
    feedLines (line :: lines) = line.toList ++ '\n' :: feedLines lines :=
  List.append_assoc line.toList ['\n'] (feedLines lines)

theorem feedLines_append (front back : List String) :
    feedLines (front ++ back) = feedLines front ++ feedLines back :=
  List.flatMap_append

theorem toList_joinLines_feed {lines : List String} (hne : lines ≠ []) :
    (joinLines lines ++ "\n").toList = feedLines lines := by
  have hnl : "\n".toList = ['\n'] := rfl
  induction lines with
  | nil => exact absurd rfl hne
  | cons line lines ih =>
    cases lines with
    | nil =>
      rw [joinLines, String.intercalate_singleton, String.toList_append, hnl]
      exact (List.append_nil _).symm
    | cons next lines =>
      have hrest := ih (List.cons_ne_nil next lines)
      rw [joinLines, String.intercalate_cons_cons, ← joinLines, String.append_assoc,
        String.toList_append, hrest, String.toList_append, hnl]
      rfl

end ClientGen.Text
