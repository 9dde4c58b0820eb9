import ClientGen.MemberName
import ClientGen.Proofs.Lines

namespace ClientGen
namespace MemberName
open Unicode

theorem not_isSeparator_iff {c : Char} :
    isSeparator c = false ↔ c ≠ '_' ∧ isIdContinue c = true := by
  rw [isSeparator, Bool.or_eq_false_iff, beq_eq_false_iff_ne, Bool.not_eq_false']

theorem words_eq_nil_iff {cs : List Char} :
    words cs = [] ↔ ∀ c ∈ cs, isSeparator c = true := by
  rw [words, List.filter_eq_nil_iff]
  induction cs with
  | nil => simp
  | cons c cs ih =>
    rw [List.splitOnP_cons_eq_if_modifyHead, List.forall_mem_cons]
    split
    · next hc =>
      rw [List.forall_mem_cons, ih]
      simp [hc]
    · next hc =>
      obtain ⟨part, rest, hparts⟩ :=
        List.exists_cons_of_ne_nil (List.splitOnP_ne_nil isSeparator cs)
      rw [hparts, List.modifyHead_cons, List.forall_mem_cons]
      simp [hc]

theorem not_isSeparator_of_mem_splitOnP {cs part : List Char}
    (h : part ∈ cs.splitOnP isSeparator) : ∀ c ∈ part, isSeparator c = false := by
  induction cs generalizing part with
  | nil =>
    cases List.mem_singleton.1 h
    exact fun c hc => nomatch hc
  | cons d cs ih =>
    rw [List.splitOnP_cons_eq_if_modifyHead] at h
    split at h
    · rcases List.mem_cons.1 h with rfl | h
      · exact fun c hc => nomatch hc
      · exact ih h
    · next hd =>
      obtain ⟨head, rest, hparts⟩ :=
        List.exists_cons_of_ne_nil (List.splitOnP_ne_nil isSeparator cs)
      rw [hparts, List.modifyHead_cons] at h
      rw [hparts] at ih
      rcases List.mem_cons.1 h with rfl | h
      · intro c hc
        rcases List.mem_cons.1 hc with rfl | hc
        · exact Bool.eq_false_iff.2 hd
        · exact ih List.mem_cons_self c hc
      · exact ih (List.mem_cons_of_mem head h)

theorem isIdContinue_of_mem_words {cs word : List Char} (h : word ∈ words cs) :
    ∀ c ∈ word, isIdContinue c = true := by
  intro c hc
  have hs := not_isSeparator_of_mem_splitOnP (List.mem_filter.1 h).1 c hc
  exact (not_isSeparator_iff.1 hs).2

theorem flatten_parts (word : List Char) : (parts word).flatten = word := by
  induction word with
  | nil => rfl
  | cons c cs ih =>
    rw [parts]
    split
    · next hparts =>
      rw [hparts] at ih
      cases ih
      rfl
    · next part rest hparts =>
      rw [hparts, List.flatten_cons] at ih
      split
      · rw [List.flatten_cons, List.flatten_cons, ih, List.singleton_append]
      · rw [List.flatten_cons, List.cons_append, ih]

theorem mem_of_mem_parts {word part : List Char} (h : part ∈ parts word) {c : Char}
    (hc : c ∈ part) : c ∈ word := by
  rw [← flatten_parts word]
  exact List.mem_flatten_of_mem h hc

theorem forall_mem_lowerFirst {q : Char → Prop} (hlower : ∀ c, q c → ∀ d ∈ lowerChar c, q d)
    {word : List Char} (h : ∀ c ∈ word, q c) : ∀ c ∈ lowerFirst word, q c := by
  cases word with
  | nil => exact h
  | cons d word =>
    intro c hc
    rcases List.mem_append.1 hc with hc | hc
    · exact hlower d (h d List.mem_cons_self) c hc
    · exact h c (List.mem_cons_of_mem d hc)

theorem forall_mem_upperFirst {q : Char → Prop} (hupper : ∀ c, q c → ∀ d ∈ upperChar c, q d)
    {word : List Char} (h : ∀ c ∈ word, q c) : ∀ c ∈ upperFirst word, q c := by
  cases word with
  | nil => exact h
  | cons d word =>
    intro c hc
    rcases List.mem_append.1 hc with hc | hc
    · exact hupper d (h d List.mem_cons_self) c hc
    · exact h c (List.mem_cons_of_mem d hc)

/-- What all characters of some words have and keep in either case, those of a camel case name
have. -/
theorem forall_mem_join_camel {q : Char → Prop} (hlower : ∀ c, q c → ∀ d ∈ lowerChar c, q d)
    (hupper : ∀ c, q c → ∀ d ∈ upperChar c, q d) {ws : List (List Char)}
    (h : ∀ word ∈ ws, ∀ c ∈ word, q c) : ∀ c ∈ join .camel ws, q c := by
  cases ws with
  | nil => exact fun c hc => nomatch hc
  | cons word ws =>
    intro c hc
    rcases List.mem_append.1 hc with hc | hc
    · exact forall_mem_lowerFirst hlower (h word List.mem_cons_self) c hc
    · obtain ⟨w, hw, hc⟩ := List.mem_flatMap.1 hc
      exact forall_mem_upperFirst hupper (h w (List.mem_cons_of_mem word hw)) c hc

theorem isIdContinue_join (style : MethodCase) {ws : List (List Char)}
    (h : ∀ word ∈ ws, ∀ c ∈ word, isIdContinue c = true) :
    ∀ c ∈ join style ws, isIdContinue c = true := by
  cases style with
  | camel =>
    exact forall_mem_join_camel (fun _ => isIdContinue_lowerChar) (fun _ => isIdContinue_upperChar) h
  | snake =>
    intro c hc
    rcases Text.mem_intercalate hc with hc | ⟨piece, hpiece, hc⟩
    · cases List.mem_singleton.1 hc
      decide
    · obtain ⟨part, hpart, rfl⟩ := List.mem_map.1 hpiece
      obtain ⟨word, hword, hp⟩ := List.mem_flatMap.1 hpart
      exact isIdContinue_lower (fun d hd => h word hword d (mem_of_mem_parts hp hd)) c hc

def joined (style : MethodCase) (wireName : String) : String :=
  String.ofList (join style (words wireName.toList))

/-- The text itself if it is an identifier, and else with an underscore before it. -/
def asIdentifier (name : String) : String :=
  if isIdentifier name then name else "_" ++ name

theorem isIdentifier_underscore {name : String} (h : ∀ c ∈ name.toList, isIdContinue c = true) :
    isIdentifier ("_" ++ name) = true := by
  have hl : ("_" ++ name).toList = '_' :: name.toList := by
    rw [String.toList_append]
    rfl
  rw [isIdentifier, hl]
  exact Bool.and_eq_true_iff.2 ⟨by decide, List.all_eq_true.2 h⟩

theorem isIdContinue_joined (style : MethodCase) (wireName : String) :
    ∀ c ∈ (joined style wireName).toList, isIdContinue c = true := by
  rw [joined, String.toList_ofList]
  exact isIdContinue_join style fun _ hword => isIdContinue_of_mem_words hword

theorem toIdentifier?_joined (style : MethodCase) (wireName : String) :
    toIdentifier? (joined style wireName) = some (asIdentifier (joined style wireName)) := by
  have hi := isIdentifier_underscore (isIdContinue_joined style wireName)
  rw [toIdentifier?, asIdentifier, if_pos hi]
  split <;> rfl

/-- A member has the name of what has no words only if the wire name has none. -/
theorem memberName_eq (style : MethodCase) (reserved : List String) (wireName : String) :
    memberName style reserved wireName =
      if words wireName.toList = [] then fallback
      else avoid reserved (asIdentifier (joined style wireName)) := by
  rw [memberName]
  split
  · next h => rw [if_pos h]
  · next h =>
    have ht := toIdentifier?_joined style wireName
    rw [joined] at ht
    rw [if_neg h, ht]
    rfl

theorem isIdentifier_asIdentifier {name : String} (h : ∀ c ∈ name.toList, isIdContinue c = true) :
    isIdentifier (asIdentifier name) = true := by
  rw [asIdentifier]
  split
  · assumption
  · exact isIdentifier_underscore h

theorem isIdentifier_append_underscore {name : String} (h : isIdentifier name = true) :
    isIdentifier (name ++ "_") = true := by
  have hu : "_".toList = ['_'] := rfl
  rw [isIdentifier] at h
  rw [isIdentifier, String.toList_append, hu]
  cases hl : name.toList with
  | nil => simp only [hl, Bool.false_eq_true] at h
  | cons c cs =>
    simp only [hl, Bool.and_eq_true] at h
    simp only [List.cons_append, List.all_append, Bool.and_eq_true, h, true_and]
    decide

/-- The name of a member is an identifier, whatever the wire name is. -/
theorem isIdentifier_memberName (style : MethodCase) (reserved : List String) (wireName : String) :
    isIdentifier (memberName style reserved wireName) = true := by
  have hi := isIdentifier_asIdentifier (isIdContinue_joined style wireName)
  rw [memberName_eq]
  split
  · decide
  · rw [avoid]
    split
    · exact isIdentifier_append_underscore hi
    · exact hi

theorem isKeyword_iff {name : String} : isKeyword name = true ↔ name ∈ keywords :=
  List.contains_iff_mem

theorem isKeyword_append_underscore (name : String) : isKeyword (name ++ "_") = false := by
  have hk : ∀ k ∈ keywords, k.toList.getLast? ≠ some '_' := by decide
  rw [Bool.eq_false_iff]
  intro h
  refine hk _ (isKeyword_iff.1 h) ?_
  rw [String.toList_append]
  exact List.getLast?_concat

theorem isKeyword_memberName (style : MethodCase) (reserved : List String) (wireName : String) :
    isKeyword (memberName style reserved wireName) = false := by
  rw [memberName_eq]
  split
  · decide
  · rw [avoid]
    split
    · exact isKeyword_append_underscore _
    · next hname =>
      rw [Bool.or_eq_true, not_or] at hname
      exact Bool.eq_false_iff.2 hname.1

/-- A name can be defined and called, whatever the wire name, the case and the reserved names
are. -/
theorem memberName_usable (style : MethodCase) (reserved : List String) (wireName : String) :
    isIdentifier (memberName style reserved wireName) = true ∧
      isKeyword (memberName style reserved wireName) = false :=
  ⟨isIdentifier_memberName style reserved wireName, isKeyword_memberName style reserved wireName⟩

theorem asIdentifier_of_keyword {name : String} (h : isKeyword name = true) :
    asIdentifier name = name := by
  have hk : ∀ k ∈ keywords, isIdentifier k = true := by decide
  rw [asIdentifier, if_pos (hk name (isKeyword_iff.1 h))]

theorem isKeyword_asIdentifier {name : String} :
    isKeyword (asIdentifier name) = true ↔ isKeyword name = true := by
  constructor
  · intro h
    rw [asIdentifier] at h
    split at h
    · exact h
    · have hk : ∀ k ∈ keywords, k.toList.head? ≠ some '_' := by decide
      refine absurd ?_ (hk _ (isKeyword_iff.1 h))
      rw [String.toList_append]
      rfl
  · intro h
    rwa [asIdentifier_of_keyword h]

theorem ne_append_underscore (name : String) : name ≠ name ++ "_" := by
  intro h
  have hl := congrArg String.length h
  have hone : "_".length = 1 := rfl
  rw [String.length_append] at hl
  omega

theorem avoid_eq_reserved_iff {reserved name : String} :
    avoid [reserved] name = reserved ↔ isKeyword name = true ∧ reserved = name ++ "_" := by
  rw [avoid, List.contains_cons, List.contains_nil, Bool.or_false]
  by_cases hk : isKeyword name = true
  · rw [hk, Bool.true_or, if_pos rfl]
    exact ⟨fun h => ⟨rfl, h.symm⟩, fun h => h.2.symm⟩
  · rw [Bool.eq_false_iff.2 hk, Bool.false_or]
    split
    · next he =>
      -- what is reserved gets longer, so that it is not met again
      have hr := eq_of_beq he
      subst hr
      exact ⟨fun h => absurd h.symm (ne_append_underscore _), fun h => nomatch h.1⟩
    · next he =>
      exact ⟨fun h => absurd (beq_iff_eq.2 h) he, fun h => nomatch h.1⟩

/-- Whether the member for a wire name is named as the transport method in spite of its being
reserved: a wire name without words is named by the fallback, and behind a keyword stands an
underscore, without regard to what is reserved. -/
def Shadows (style : MethodCase) (transportMethod wireName : String) : Prop :=
  (transportMethod = fallback ∧ ∀ c ∈ wireName.toList, isSeparator c = true) ∨
    (isKeyword (joined style wireName) = true ∧ transportMethod = joined style wireName ++ "_")

instance (style : MethodCase) (transportMethod wireName : String) :
    Decidable (Shadows style transportMethod wireName) :=
  have := List.decidableBAll (fun c => isSeparator c = true) wireName.toList
  inferInstanceAs (Decidable ((_ ∧ _) ∨ (_ ∧ _)))

theorem memberName_eq_reserved_iff {style : MethodCase} {reserved wireName : String} :
    memberName style [reserved] wireName = reserved ↔ Shadows style reserved wireName := by
  rw [memberName_eq, Shadows, ← words_eq_nil_iff]
  by_cases hw : words wireName.toList = []
  · rw [if_pos hw]
    have hj : joined style wireName = "" := by
      rw [joined, hw]
      cases style <;> rfl
    rw [hj]
    exact ⟨fun h => .inl ⟨h.symm, hw⟩, fun h => h.elim (fun h => h.1.symm) fun h => nomatch h.1⟩
  · rw [if_neg hw, avoid_eq_reserved_iff, isKeyword_asIdentifier]
    constructor
    · rintro ⟨hk, hr⟩
      rw [asIdentifier_of_keyword hk] at hr
      exact .inr ⟨hk, hr⟩
    · rintro (⟨-, h⟩ | ⟨hk, hr⟩)
      · exact absurd h hw
      · rw [asIdentifier_of_keyword hk]
        exact ⟨hk, hr⟩

end MemberName

end ClientGen
