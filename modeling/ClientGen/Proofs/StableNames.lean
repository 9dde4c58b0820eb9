import ClientGen.Proofs.Words
import Mathlib.Data.List.Basic

namespace ClientGen
namespace MemberName
open Unicode

theorem words_join {ws : List (List Char)} (hne : ws ≠ []) (h : ∀ word ∈ ws, IsWord word)
    (style : MethodCase) :
    words (join style ws) =
      match style with
      | .camel => [join .camel ws]
      | .snake => snakeWords ws := by
  cases style with
  | camel => exact words_of_isWord (isWord_join_camel hne h)
  | snake => exact words_intercalate (isWord_of_mem_snakeWords h)

theorem words_join_ne_nil {ws : List (List Char)} (hne : ws ≠ []) (h : ∀ word ∈ ws, IsWord word)
    (style : MethodCase) : words (join style ws) ≠ [] := by
  rw [words_join hne h]
  cases style with
  | camel => exact List.cons_ne_nil _ []
  | snake => exact snakeWords_ne_nil hne h

theorem lowerFirst_join_camel {ws : List (List Char)} (h : ∀ word ∈ ws, IsWord word) :
    lowerFirst (join .camel ws) = join .camel ws := by
  cases ws with
  | nil => rfl
  | cons word ws =>
    obtain ⟨c, cs, rfl⟩ := List.exists_cons_of_ne_nil (h word List.mem_cons_self).1
    obtain ⟨d, ds, hd⟩ := List.exists_cons_of_ne_nil (lowerChar_ne_nil c)
    have hsmall : lowerChar d = [d] := isSmall_lowerChar c d (hd ▸ List.mem_cons_self)
    have hjoin : join .camel ((c :: cs) :: ws) = d :: (ds ++ cs ++ ws.flatMap upperFirst) := by
      rw [join, lowerFirst, hd]
      rfl
    rw [hjoin, lowerFirst, hsmall]
    rfl

theorem snakeWords_snakeWords {ws : List (List Char)} (h : ∀ word ∈ ws, IsWord word) :
    snakeWords (snakeWords ws) = snakeWords ws := by
  -- small words have no capital to be divided before
  have hparts : ∀ word ∈ snakeWords ws, parts word = [word] ∧ lower word = word := by
    intro word hword
    have hne := (isWord_of_mem_snakeWords h word hword).1
    obtain ⟨part, -, rfl⟩ := List.mem_map.1 hword
    exact ⟨parts_of_not_isUpper hne fun c hc => (isSmall_lower part c hc).not_isUpper,
      lower_lower part⟩
  have hflat : (snakeWords ws).flatMap parts = snakeWords ws := by
    rw [List.flatMap_congr fun word hword => (hparts word hword).1]
    exact List.flatMap_singleton' _
  rw [snakeWords, hflat]
  exact (List.map_congr_left fun word hword => (hparts word hword).2).trans (List.map_id _)

theorem join_words_join {ws : List (List Char)} (hne : ws ≠ []) (h : ∀ word ∈ ws, IsWord word)
    (style : MethodCase) : join style (words (join style ws)) = join style ws := by
  rw [words_join hne h]
  cases style with
  | camel =>
    have hone : join .camel [join .camel ws] = lowerFirst (join .camel ws) := List.append_nil _
    exact hone.trans (lowerFirst_join_camel h)
  | snake => exact congrArg (List.intercalate ['_']) (snakeWords_snakeWords h)

theorem joined_memberName (style : MethodCase) (reserved : List String) {wireName : String}
    (h : words wireName.toList ≠ []) :
    words (memberName style reserved wireName).toList ≠ [] ∧
      joined style (memberName style reserved wireName) = joined style wireName := by
  have hwords : ∀ word ∈ words wireName.toList, IsWord word := fun word => isWord_of_mem_words
  rw [joined, words_memberName style reserved h, join_words_join h hwords style]
  exact ⟨words_join_ne_nil h hwords style, rfl⟩

theorem memberName_fallback (style : MethodCase) {reserved : List String}
    (h : fallback ∉ reserved) : memberName style reserved fallback = fallback := by
  have hname : asIdentifier (joined style fallback) = fallback := by
    cases style <;> decide
  have hkeyword : isKeyword fallback = false := by decide
  have hreserved : reserved.contains fallback = false := by
    rw [Bool.eq_false_iff]
    exact fun hc => h (List.contains_iff_mem.1 hc)
  rw [memberName_eq, if_neg (by decide), hname, avoid, hkeyword, hreserved]
  rfl

/-- The name of a member is its own name, unless the name of what has no words is reserved. -/
theorem memberName_memberName (style : MethodCase) {reserved : List String}
    (h : fallback ∉ reserved) (wireName : String) :
    memberName style reserved (memberName style reserved wireName) =
      memberName style reserved wireName := by
  -- the fallback is a word itself, so that it would get the underscore of a reserved name
  by_cases hw : words wireName.toList = []
  · have hname : memberName style reserved wireName = fallback := by
      rw [memberName_eq, if_pos hw]
    rw [hname, memberName_fallback style h]
  · obtain ⟨hne, hjoined⟩ := joined_memberName style reserved hw
    rw [memberName_eq, if_neg hne, hjoined, memberName_eq style reserved wireName, if_neg hw]

theorem reservedDigits_memberName :
    fallback ∉ ["_3_d_σς"] ∧ memberName .snake ["_3_d_σς"] "3D-ΣΣ" = "_3_d_σς_" ∧
      memberName .snake ["_3_d_σς"] "_3_d_σς_" = "_3_d_σς_" := by
  have hfree : fallback ∉ ["_3_d_σς"] := by decide
  have hname : memberName .snake ["_3_d_σς"] "3D-ΣΣ" = "_3_d_σς_" := by decide +kernel
  have hagain := memberName_memberName .snake hfree "3D-ΣΣ"
  rw [hname] at hagain
  exact ⟨hfree, hname, hagain⟩

end MemberName

end ClientGen
