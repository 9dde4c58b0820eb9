import ClientGen.Proofs.Words
import Mathlib.Data.List.Chain

namespace ClientGen
namespace MemberName
open Unicode

def IsAscii (cs : List Char) : Prop :=
  ∀ c ∈ cs, c.toNat < 128

instance (cs : List Char) : Decidable (IsAscii cs) :=
  List.decidableBAll _ cs

theorem toLower_lt {c : Char} (h : c.toNat < 128) : c.toLower.toNat < 128 :=
  of_decide_eq_true (of_ascii (q := fun c => decide (c.toLower.toNat < 128)) (by decide) h)

theorem toUpper_lt {c : Char} (h : c.toNat < 128) : c.toUpper.toNat < 128 :=
  of_decide_eq_true (of_ascii (q := fun c => decide (c.toUpper.toNat < 128)) (by decide) h)

theorem IsAscii.map_toLower {cs : List Char} (h : IsAscii cs) : IsAscii (cs.map Char.toLower) := by
  intro d hd
  obtain ⟨c, hc, rfl⟩ := List.mem_map.1 hd
  exact toLower_lt (h c hc)

theorem isSeparator_ascii {c : Char} (h : c.toNat < 128) : isSeparator c = !c.isAlphanum := by
  have ha := of_ascii (q := fun c => isSeparator c == !c.isAlphanum) (by decide) h
  exact eq_of_beq ha

theorem toLower_toLower {c : Char} (h : c.toNat < 128) : c.toLower.toLower = c.toLower :=
  eq_of_beq (of_ascii (q := fun c => c.toLower.toLower == c.toLower) (by decide) h)

theorem toLower_toUpper {c : Char} (h : c.toNat < 128) : c.toUpper.toLower = c.toLower :=
  eq_of_beq (of_ascii (q := fun c => c.toUpper.toLower == c.toLower) (by decide) h)

theorem lowerAfter_ascii {cs : List Char} (h : IsAscii cs) (afterCased : Bool) :
    lowerAfter afterCased cs = cs.map Char.toLower := by
  induction cs generalizing afterCased with
  | nil => rfl
  | cons c cs ih =>
    have hc : c.toNat < 128 := h c List.mem_cons_self
    have hsigma : (c == 'Σ') = false := by
      rw [beq_eq_false_iff_ne]
      rintro rfl
      exact absurd hc (by decide)
    rw [lowerAfter, hsigma, Bool.false_and, Bool.false_and, if_neg Bool.false_ne_true,
      lowerChar_ascii hc, ih fun d hd => h d (List.mem_cons_of_mem c hd)]
    rfl

theorem lower_ascii {cs : List Char} (h : IsAscii cs) : lower cs = cs.map Char.toLower :=
  lowerAfter_ascii h false

theorem map_toLower_lowerFirst {word : List Char} (h : IsAscii word) :
    (lowerFirst word).map Char.toLower = word.map Char.toLower := by
  cases word with
  | nil => rfl
  | cons c cs =>
    have hc : c.toNat < 128 := h c List.mem_cons_self
    rw [lowerFirst, lowerChar_ascii hc, List.singleton_append, List.map_cons, List.map_cons,
      toLower_toLower hc]

theorem map_toLower_upperFirst {word : List Char} (h : IsAscii word) :
    (upperFirst word).map Char.toLower = word.map Char.toLower := by
  cases word with
  | nil => rfl
  | cons c cs =>
    have hc : c.toNat < 128 := h c List.mem_cons_self
    rw [upperFirst, upperChar_ascii hc, List.singleton_append, List.map_cons, List.map_cons,
      toLower_toUpper hc]

theorem map_toLower_join_camel {ws : List (List Char)} (h : ∀ word ∈ ws, IsAscii word) :
    (join .camel ws).map Char.toLower = ws.flatten.map Char.toLower := by
  cases ws with
  | nil => rfl
  | cons word ws =>
    have hrest : (ws.flatMap upperFirst).map Char.toLower = ws.flatten.map Char.toLower := by
      rw [List.map_flatMap, List.map_flatten, ← List.flatMap_def]
      apply List.flatMap_congr
      intro w hw
      exact map_toLower_upperFirst (h w (List.mem_cons_of_mem word hw))
    rw [join, List.map_append, map_toLower_lowerFirst (h word List.mem_cons_self), hrest,
      List.flatten_cons, List.map_append]

theorem flatten_flatMap_parts (ws : List (List Char)) : (ws.flatMap parts).flatten = ws.flatten := by
  induction ws with
  | nil => rfl
  | cons word ws ih =>
    rw [List.flatMap_cons, List.flatten_append, flatten_parts, ih, List.flatten_cons]

theorem flatten_snakeWords {ws : List (List Char)} (h : ∀ word ∈ ws, IsAscii word) :
    (snakeWords ws).flatten = ws.flatten.map Char.toLower := by
  have hlower : snakeWords ws = (ws.flatMap parts).map (List.map Char.toLower) := by
    apply List.map_congr_left
    intro part hpart
    obtain ⟨word, hword, hp⟩ := List.mem_flatMap.1 hpart
    exact lower_ascii fun c hc => h word hword c (mem_of_mem_parts hp hc)
  rw [hlower, ← List.map_flatten, flatten_flatMap_parts]

theorem filter_underscore_of_isWord {word : List Char} (h : IsWord word) :
    word.filter (· != '_') = word := by
  apply List.filter_eq_self.2
  intro c hc
  exact bne_iff_ne.2 (not_isSeparator_iff.1 (h.2 c hc)).1

theorem filter_underscore_intercalate {ws : List (List Char)} (h : ∀ word ∈ ws, IsWord word) :
    (['_'].intercalate ws).filter (· != '_') = ws.flatten := by
  induction ws with
  | nil => rfl
  | cons word ws ih =>
    have hword := filter_underscore_of_isWord (h word List.mem_cons_self)
    cases ws with
    | nil => rw [List.intercalate_singleton, hword, List.flatten_singleton]
    | cons next ws =>
      have hrest := ih fun w hw => h w (List.mem_cons_of_mem word hw)
      rw [List.intercalate_cons_cons, List.filter_append, List.filter_append, hword, hrest,
        @List.flatten_cons _ word]
      exact congrArg (· ++ (next :: ws).flatten) (List.append_nil word)

theorem letters_join {ws : List (List Char)} (hne : ws ≠ []) (hw : ∀ word ∈ ws, IsWord word)
    (ha : ∀ word ∈ ws, IsAscii word) (style : MethodCase) :
    lower ((join style ws).filter (· != '_')) = ws.flatten.map Char.toLower := by
  have hflat : IsAscii ws.flatten := by
    intro c hc
    obtain ⟨word, hword, hmem⟩ := List.mem_flatten.1 hc
    exact ha word hword c hmem
  cases style with
  | camel =>
    have hjoin : IsAscii (join .camel ws) := by
      refine forall_mem_join_camel ?_ ?_ ha
      · intro c hc d hd
        rw [lowerChar_ascii hc, List.mem_singleton] at hd
        rw [hd]
        exact toLower_lt hc
      · intro c hc d hd
        rw [upperChar_ascii hc, List.mem_singleton] at hd
        rw [hd]
        exact toUpper_lt hc
    rw [filter_underscore_of_isWord (isWord_join_camel hne hw), lower_ascii hjoin,
      map_toLower_join_camel ha]
  | snake =>
    have hjoin : (join .snake ws).filter (· != '_') = ws.flatten.map Char.toLower := by
      rw [← flatten_snakeWords ha]
      exact filter_underscore_intercalate (isWord_of_mem_snakeWords hw)
    rw [hjoin, lower_ascii hflat.map_toLower, List.map_map]
    exact List.map_congr_left fun c hc => toLower_toLower (hflat c hc)

theorem filter_underscore_padding {cs : List Char} (h : IsPadding cs) :
    cs.filter (· != '_') = [] := by
  rcases h with rfl | rfl <;> rfl

/-- Whether no two underscores stand side by side. -/
def IsSpaced (cs : List Char) : Prop :=
  cs.IsChain fun a b => ¬(a = '_' ∧ b = '_')

/-- Whether a name has the characters of its case, with underscores where it may have them. -/
def FitsCase : MethodCase → List Char → Prop
  | .camel, cs => '_' ∉ cs.tail.dropLast
  | .snake, cs => (∀ c ∈ cs, c.isLower = true ∨ c.isDigit = true ∨ c = '_') ∧ IsSpaced cs

theorem fitsCase_camel {front cs back : List Char} (hf : IsPadding front) (hb : IsPadding back)
    (h : IsWord cs) : FitsCase .camel (front ++ (cs ++ back)) := by
  have hinner : (front ++ (cs ++ back)).tail.dropLast.Sublist cs := by
    rcases hf with rfl | rfl <;> rcases hb with rfl | rfl
    · rw [List.nil_append, List.append_nil]
      exact (List.dropLast_sublist _).trans (List.tail_sublist cs)
    · rw [List.nil_append, ← List.tail_dropLast, List.dropLast_concat]
      exact List.tail_sublist cs
    · rw [List.append_nil]
      exact List.dropLast_sublist cs
    · rw [List.singleton_append, List.tail_cons, List.dropLast_concat]
  intro hmem
  exact (not_isSeparator_iff.1 (h.2 '_' (hinner.mem hmem))).1 rfl

theorem isSpaced_append {word cs : List Char} (h : ∀ c ∈ word, c ≠ '_') (hcs : IsSpaced cs) :
    IsSpaced (word ++ cs) := by
  induction word with
  | nil => exact hcs
  | cons c word ih =>
    have hc : c ≠ '_' := h c List.mem_cons_self
    exact List.isChain_cons.2
      ⟨fun _ _ hboth => hc hboth.1, ih fun d hd => h d (List.mem_cons_of_mem c hd)⟩

theorem IsWord.isSpaced_append {word cs : List Char} (h : IsWord word) (hcs : IsSpaced cs) :
    IsSpaced ('_' :: (word ++ cs)) := by
  have hall : ∀ c ∈ word, c ≠ '_' := fun c hc => (not_isSeparator_iff.1 (h.2 c hc)).1
  refine List.isChain_cons.2 ⟨?_, MemberName.isSpaced_append hall hcs⟩
  obtain ⟨c, word, rfl⟩ := List.exists_cons_of_ne_nil h.1
  intro d hd hboth
  cases hd
  exact hall c List.mem_cons_self hboth.2

theorem isSpaced_intercalate {ws : List (List Char)} (hne : ws ≠ []) (h : ∀ word ∈ ws, IsWord word) :
    IsSpaced ('_' :: (['_'].intercalate ws ++ ['_'])) := by
  induction ws with
  | nil => exact absurd rfl hne
  | cons word ws ih =>
    have hword : IsWord word := h word List.mem_cons_self
    cases ws with
    | nil =>
      rw [List.intercalate_singleton]
      exact hword.isSpaced_append (List.isChain_singleton '_')
    | cons next ws =>
      rw [List.intercalate_cons_cons, List.append_assoc, List.append_assoc]
      apply hword.isSpaced_append
      exact ih (List.cons_ne_nil next ws) fun w hw => h w (List.mem_cons_of_mem word hw)

theorem IsSpaced.of_padded {front cs back : List Char} (hf : IsPadding front) (hb : IsPadding back)
    (h : IsSpaced ('_' :: (cs ++ ['_']))) : IsSpaced (front ++ (cs ++ back)) := by
  have hcut : IsSpaced ('_' :: (cs ++ back)) := by
    rcases hb with rfl | rfl
    · have hsplit : IsSpaced (('_' :: cs) ++ ['_']) := h
      rw [List.append_nil]
      exact (List.isChain_append.1 hsplit).1
    · exact h
  rcases hf with rfl | rfl
  · exact (List.isChain_cons.1 hcut).2
  · exact hcut

theorem fitsCase_snake {front back : List Char} (hf : IsPadding front) (hb : IsPadding back)
    {ws : List (List Char)} (hne : ws ≠ []) (hw : ∀ word ∈ ws, IsWord word)
    (hsmall : ∀ word ∈ ws, ∀ c ∈ word, c.isLower = true ∨ c.isDigit = true) :
    FitsCase .snake (front ++ (['_'].intercalate ws ++ back)) := by
  constructor
  · have hpadding {cs : List Char} (hp : IsPadding cs) : ∀ c ∈ cs, c = '_' := by
      rcases hp with rfl | rfl
      · exact fun c hc => nomatch hc
      · exact fun c hc => List.mem_singleton.1 hc
    intro c hc
    rcases List.mem_append.1 hc with hc | hc
    · exact .inr (.inr (hpadding hf c hc))
    rcases List.mem_append.1 hc with hc | hc
    · rcases Text.mem_intercalate hc with hc | ⟨word, hword, hc⟩
      · exact .inr (.inr (List.mem_singleton.1 hc))
      · exact (hsmall word hword c hc).imp_right .inl
    · exact .inr (.inr (hpadding hb c hc))
  · exact (isSpaced_intercalate hne hw).of_padded hf hb

theorem isLower_or_isDigit_toLower {c : Char} (h : c.toNat < 128) (hc : isSeparator c = false) :
    c.toLower.isLower = true ∨ c.toLower.isDigit = true := by
  have ha := of_ascii (q := fun c => isSeparator c || (c.toLower.isLower || c.toLower.isDigit))
    (by decide) h
  rw [hc, Bool.false_or, Bool.or_eq_true] at ha
  exact ha

theorem small_of_mem_snakeWords {ws : List (List Char)} (hw : ∀ word ∈ ws, IsWord word)
    (ha : ∀ word ∈ ws, IsAscii word) :
    ∀ word ∈ snakeWords ws, ∀ c ∈ word, c.isLower = true ∨ c.isDigit = true := by
  intro word hword c hc
  obtain ⟨part, hpart, rfl⟩ := List.mem_map.1 hword
  obtain ⟨w, hmem, hp⟩ := List.mem_flatMap.1 hpart
  rw [lower_ascii fun d hd => ha w hmem d (mem_of_mem_parts hp hd)] at hc
  obtain ⟨d, hd, rfl⟩ := List.mem_map.1 hc
  have hd := mem_of_mem_parts hp hd
  exact isLower_or_isDigit_toLower (ha w hmem d hd) ((hw w hmem).2 d hd)

/-- The name for an ASCII wire name keeps its letters and digits, but for their case, in the shape
of its own case; what has none is named by the fallback. -/
theorem memberName_letters (style : MethodCase) (reserved : List String) {wireName : String}
    (h : IsAscii wireName.toList) :
    ((∃ c ∈ wireName.toList, c.isAlphanum = true) →
      lower ((memberName style reserved wireName).toList.filter (· != '_')) =
          lower (wireName.toList.filter Char.isAlphanum) ∧
        FitsCase style (memberName style reserved wireName).toList) ∧
    ((∀ c ∈ wireName.toList, c.isAlphanum = false) →
      memberName style reserved wireName = "operation") := by
  have hsep : ∀ c ∈ wireName.toList, isSeparator c = !c.isAlphanum :=
    fun c hc => isSeparator_ascii (h c hc)
  constructor
  · rintro ⟨c, hc, halnum⟩
    have hne : words wireName.toList ≠ [] := by
      intro he
      have hall := words_eq_nil_iff.1 he c hc
      rw [hsep c hc, halnum] at hall
      cases hall
    have hwords : ∀ word ∈ words wireName.toList, IsWord word := fun word => isWord_of_mem_words
    have hflat : (words wireName.toList).flatten = wireName.toList.filter Char.isAlphanum := by
      rw [flatten_words]
      apply List.filter_congr
      intro d hd
      rw [hsep d hd, Bool.not_not]
    have hascii : ∀ word ∈ words wireName.toList, IsAscii word := by
      intro word hword d hd
      have hmem := List.mem_flatten_of_mem hword hd
      rw [hflat] at hmem
      exact h d (List.mem_filter.1 hmem).1
    obtain ⟨front, back, hf, hb, hname⟩ := exists_padding style reserved hne
    rw [hname]
    constructor
    · have hletters : IsAscii (wireName.toList.filter Char.isAlphanum) :=
        fun d hd => h d (List.mem_filter.1 hd).1
      rw [List.filter_append, List.filter_append, filter_underscore_padding hf,
        filter_underscore_padding hb, List.nil_append, List.append_nil,
        letters_join hne hwords hascii, hflat, lower_ascii hletters]
    · cases style with
      | camel => exact fitsCase_camel hf hb (isWord_join_camel hne hwords)
      | snake =>
        exact fitsCase_snake hf hb (snakeWords_ne_nil hne hwords)
          (isWord_of_mem_snakeWords hwords) (small_of_mem_snakeWords hwords hascii)
  · intro hnone
    have hw : words wireName.toList = [] := by
      rw [words_eq_nil_iff]
      intro c hc
      rw [hsep c hc, hnone c hc]
      rfl
    rw [memberName_eq, if_pos hw]
    rfl

/-- A name of acronyms, digits and separators that is reserved once it is in snake case, and a name
of separators only. -/
theorem acronyms_letters :
    memberName .snake ["http2_get_id"] "HTTP2Get-_ID" = "http2_get_id_" ∧
      lower ("http2_get_id_".toList.filter (· != '_')) =
        lower ("HTTP2Get-_ID".toList.filter Char.isAlphanum) ∧
      FitsCase .snake "http2_get_id_".toList ∧
      memberName .camel [] "-_" = "operation" := by
  have hname : memberName .snake ["http2_get_id"] "HTTP2Get-_ID" = "http2_get_id_" := by decide
  obtain ⟨hsome, -⟩ :=
    @memberName_letters .snake ["http2_get_id"] "HTTP2Get-_ID" (by decide)
  obtain ⟨hletters, hcase⟩ := hsome ⟨'G', by decide, by decide⟩
  obtain ⟨-, hnone⟩ := @memberName_letters .camel [] "-_" (by decide)
  have hmarks : ∀ c ∈ ['-', '_'], c.isAlphanum = false :=
    List.forall_mem_cons.2 ⟨by decide, List.forall_mem_singleton.2 (by decide)⟩
  rw [hname] at hletters hcase
  exact ⟨hname, hletters, hcase, hnone hmarks⟩

end MemberName

end ClientGen
