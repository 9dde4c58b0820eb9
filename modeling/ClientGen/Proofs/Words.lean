import ClientGen.Proofs.LowerCase
import ClientGen.Proofs.MemberName

namespace ClientGen
namespace MemberName
open Unicode

def IsWord (word : List Char) : Prop :=
  word ≠ [] ∧ ∀ c ∈ word, isSeparator c = false

theorem isWord_of_mem_words {cs word : List Char} (h : word ∈ words cs) : IsWord word := by
  obtain ⟨hmem, hne⟩ := List.mem_filter.1 h
  refine ⟨?_, not_isSeparator_of_mem_splitOnP hmem⟩
  rintro rfl
  cases hne

theorem words_append_separator {c : Char} (hc : isSeparator c = true) (xs ys : List Char) :
    words (xs ++ c :: ys) = words xs ++ words ys := by
  rw [words, List.splitOnP_append_cons xs ys hc, List.filter_append]
  rfl

theorem words_of_isWord {word : List Char} (h : IsWord word) : words word = [word] := by
  have hne : (!word.isEmpty) = true := by
    rw [Bool.not_eq_true', List.isEmpty_eq_false_iff]
    exact h.1
  rw [words, List.splitOnP_eq_singleton h.2, List.filter_cons, if_pos hne]
  rfl

theorem isSeparator_underscore : isSeparator '_' = true :=
  rfl

theorem words_intercalate {ws : List (List Char)} (h : ∀ word ∈ ws, IsWord word) :
    words (['_'].intercalate ws) = ws := by
  induction ws with
  | nil => rfl
  | cons word ws ih =>
    have hword := words_of_isWord (h word List.mem_cons_self)
    cases ws with
    | nil => rw [List.intercalate_singleton, hword]
    | cons next ws =>
      rw [List.intercalate_cons_cons, List.append_assoc, List.singleton_append,
        words_append_separator isSeparator_underscore, hword,
        ih fun w hw => h w (List.mem_cons_of_mem word hw)]
      rfl

theorem flatten_words (cs : List Char) :
    (words cs).flatten = cs.filter fun c => !isSeparator c := by
  rw [words, List.flatten_filter_not_isEmpty]
  induction cs with
  | nil => rfl
  | cons c cs ih =>
    rw [List.splitOnP_cons_eq_if_modifyHead]
    by_cases hc : isSeparator c = true
    · rw [if_pos hc, List.flatten_cons, ih, List.filter_cons_of_neg (by rw [hc]; decide)]
      rfl
    · obtain ⟨part, rest, hparts⟩ :=
        List.exists_cons_of_ne_nil (List.splitOnP_ne_nil isSeparator cs)
      rw [hparts, List.flatten_cons] at ih
      rw [if_neg hc, hparts, List.modifyHead_cons, List.flatten_cons, List.cons_append, ih,
        List.filter_cons_of_pos (by rw [Bool.eq_false_iff.2 hc]; rfl)]

theorem ne_nil_of_mem_parts {word part : List Char} (h : part ∈ parts word) : part ≠ [] := by
  induction word generalizing part with
  | nil => cases h
  | cons c cs ih =>
    rw [parts] at h
    split at h
    · cases List.mem_singleton.1 h
      exact List.cons_ne_nil c []
    · next first rest hparts =>
      rw [hparts] at ih
      split at h
      · rcases List.mem_cons.1 h with rfl | h
        · exact List.cons_ne_nil c []
        · exact ih h
      · rcases List.mem_cons.1 h with rfl | h
        · exact List.cons_ne_nil c first
        · exact ih (List.mem_cons_of_mem first h)

theorem parts_ne_nil {word : List Char} (h : word ≠ []) : parts word ≠ [] := by
  intro he
  have hflat := flatten_parts word
  rw [he] at hflat
  exact h hflat.symm

theorem parts_of_not_isUpper {word : List Char} (hne : word ≠ [])
    (h : ∀ c ∈ word, c.isUpper = false) : parts word = [word] := by
  induction word with
  | nil => exact absurd rfl hne
  | cons c cs ih =>
    cases cs with
    | nil => rfl
    | cons d cs =>
      have hrest := ih (List.cons_ne_nil d cs) fun x hx => h x (List.mem_cons_of_mem c hx)
      have hd : d.isUpper = false := h d (List.mem_cons_of_mem c List.mem_cons_self)
      have hundivided : isDivided c (d :: cs) = false := by
        simp only [isDivided, hd, Bool.false_and]
      rw [parts, hrest]
      exact if_neg (Bool.eq_false_iff.1 hundivided)

theorem IsWord.of_mem_parts {word part : List Char} (hw : IsWord word) (h : part ∈ parts word) :
    IsWord part :=
  ⟨ne_nil_of_mem_parts h, fun c hc => hw.2 c (mem_of_mem_parts h hc)⟩

theorem IsWord.lower {word : List Char} (h : IsWord word) : IsWord (lower word) := by
  refine ⟨lower_ne_nil h.1, fun c hc => not_isSeparator_iff.2 ⟨?_, ?_⟩⟩
  · exact ne_underscore_lower (fun d hd => (not_isSeparator_iff.1 (h.2 d hd)).1) c hc
  · exact isIdContinue_lower (fun d hd => (not_isSeparator_iff.1 (h.2 d hd)).2) c hc

theorem not_isSeparator_lowerChar (c : Char) (h : isSeparator c = false) :
    ∀ d ∈ lowerChar c, isSeparator d = false := by
  obtain ⟨hne, hid⟩ := not_isSeparator_iff.1 h
  intro d hd
  exact not_isSeparator_iff.2 ⟨ne_underscore_lowerChar hne d hd, isIdContinue_lowerChar hid d hd⟩

theorem not_isSeparator_upperChar (c : Char) (h : isSeparator c = false) :
    ∀ d ∈ upperChar c, isSeparator d = false := by
  obtain ⟨hne, hid⟩ := not_isSeparator_iff.1 h
  intro d hd
  exact not_isSeparator_iff.2 ⟨ne_underscore_upperChar hne d hd, isIdContinue_upperChar hid d hd⟩

theorem isWord_join_camel {ws : List (List Char)} (hne : ws ≠ [])
    (h : ∀ word ∈ ws, IsWord word) : IsWord (join .camel ws) := by
  constructor
  · obtain ⟨word, ws, rfl⟩ := List.exists_cons_of_ne_nil hne
    obtain ⟨c, cs, rfl⟩ := List.exists_cons_of_ne_nil (h word List.mem_cons_self).1
    exact List.append_ne_nil_of_left_ne_nil
      (List.append_ne_nil_of_left_ne_nil (lowerChar_ne_nil c) cs) _
  · exact forall_mem_join_camel not_isSeparator_lowerChar not_isSeparator_upperChar
      fun word hword => (h word hword).2

/-- The words that stand in a name in snake case. -/
def snakeWords (ws : List (List Char)) : List (List Char) :=
  (ws.flatMap parts).map lower

theorem snakeWords_ne_nil {ws : List (List Char)} (hne : ws ≠ []) (h : ∀ word ∈ ws, IsWord word) :
    snakeWords ws ≠ [] := by
  obtain ⟨word, ws, rfl⟩ := List.exists_cons_of_ne_nil hne
  have hparts := parts_ne_nil (h word List.mem_cons_self).1
  intro he
  rw [snakeWords, List.map_eq_nil_iff, List.flatMap_cons, List.append_eq_nil_iff] at he
  exact hparts he.1

theorem isWord_of_mem_snakeWords {ws : List (List Char)} (h : ∀ word ∈ ws, IsWord word) :
    ∀ word ∈ snakeWords ws, IsWord word := by
  intro word hword
  obtain ⟨part, hpart, rfl⟩ := List.mem_map.1 hword
  obtain ⟨w, hw, hp⟩ := List.mem_flatMap.1 hpart
  exact ((h w hw).of_mem_parts hp).lower

/-- An underscore or nothing. -/
def IsPadding (cs : List Char) : Prop :=
  cs = [] ∨ cs = ['_']

/-- A name is made of words put together, but for an underscore in front of it and one behind. -/
theorem exists_padding (style : MethodCase) (reserved : List String) {wireName : String}
    (h : words wireName.toList ≠ []) :
    ∃ front back, IsPadding front ∧ IsPadding back ∧
      (memberName style reserved wireName).toList =
        front ++ (join style (words wireName.toList) ++ back) := by
  have hfront : ∃ front, IsPadding front ∧ (asIdentifier (joined style wireName)).toList =
      front ++ join style (words wireName.toList) := by
    rw [asIdentifier]
    split
    · exact ⟨[], .inl rfl, String.toList_ofList⟩
    · refine ⟨['_'], .inr rfl, ?_⟩
      rw [String.toList_append, joined]
      exact congrArg ('_' :: ·) String.toList_ofList
  obtain ⟨front, hf, hname⟩ := hfront
  rw [memberName_eq, if_neg h, avoid]
  split
  · refine ⟨front, ['_'], hf, .inr rfl, ?_⟩
    rw [String.toList_append, hname, List.append_assoc]
    rfl
  · exact ⟨front, [], hf, .inl rfl, by rw [hname, List.append_nil]⟩

theorem words_padded {front back : List Char} (hf : IsPadding front) (hb : IsPadding back)
    (cs : List Char) : words (front ++ (cs ++ back)) = words cs := by
  have hback : words (cs ++ back) = words cs := by
    rcases hb with rfl | rfl
    · rw [List.append_nil]
    · rw [words_append_separator isSeparator_underscore]
      exact List.append_nil _
  rcases hf with rfl | rfl
  · exact hback
  · exact (words_append_separator isSeparator_underscore [] _).trans hback

theorem words_memberName (style : MethodCase) (reserved : List String) {wireName : String}
    (h : words wireName.toList ≠ []) :
    words (memberName style reserved wireName).toList =
      words (join style (words wireName.toList)) := by
  obtain ⟨front, back, hf, hb, hname⟩ := exists_padding style reserved h
  rw [hname, words_padded hf hb]

end MemberName

end ClientGen
