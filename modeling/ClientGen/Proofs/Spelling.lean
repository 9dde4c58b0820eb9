import ClientGen.Proofs.Emission
import ClientGen.Proofs.Lines
import Mathlib.Data.List.Basic

namespace ClientGen
open Text

theorem isLine_dotted {segments : List String}
    (h : ∀ segment ∈ segments, isIdentifier segment = true) : IsLine (dotted segments) :=
  isLine_intercalate (by decide) fun segment hs => isLine_of_isIdentifier (h segment hs)

theorem not_mem_of_isIdentifier {c : Char} (hc : Unicode.isIdContinue c = false) {s : String}
    (h : isIdentifier s = true) : c ∉ s.toList := by
  intro hmem
  rw [isIdContinue_of_isIdentifier h c hmem] at hc
  cases hc

theorem toList_dotted (segments : List String) :
    (dotted segments).toList = ['.'].intercalate (segments.map String.toList) :=
  String.toList_intercalate

theorem not_mem_dotted {c : Char} (hc : Unicode.isIdContinue c = false) (hdot : c ≠ '.')
    {segments : List String} (h : ∀ segment ∈ segments, isIdentifier segment = true) :
    c ∉ (dotted segments).toList := by
  rw [toList_dotted]
  intro hmem
  rcases Text.mem_intercalate hmem with hmem | ⟨piece, hpiece, hmem⟩
  · exact hdot (List.mem_singleton.1 hmem)
  · obtain ⟨segment, hs, rfl⟩ := List.mem_map.1 hpiece
    exact not_mem_of_isIdentifier hc (h segment hs) hmem

/-- Segments that are identifiers are found again in a dotted name. -/
theorem splitOn_dotted {segments : List String} (hne : segments ≠ [])
    (h : ∀ segment ∈ segments, isIdentifier segment = true) :
    (dotted segments).toList.splitOn '.' = segments.map String.toList := by
  rw [toList_dotted]
  apply List.splitOn_intercalate '.'
  · intro cs hcs
    obtain ⟨segment, hs, rfl⟩ := List.mem_map.1 hcs
    exact not_mem_of_isIdentifier (by decide) (h segment hs)
  · exact fun he => hne (List.map_eq_nil_iff.1 he)

theorem dotted_inj {xs ys : List String} (hxne : xs ≠ []) (hyne : ys ≠ [])
    (hx : ∀ x ∈ xs, isIdentifier x = true) (hy : ∀ y ∈ ys, isIdentifier y = true)
    (h : dotted xs = dotted ys) : xs = ys := by
  have hs := splitOn_dotted hxne hx
  rw [h, splitOn_dotted hyne hy] at hs
  exact (List.map_injective_iff.2 (fun _ _ he => String.toList_injective he) hs).symm

theorem dotted_singleton (segment : String) : dotted [segment] = segment :=
  String.intercalate_singleton

theorem dotted_ne_empty {segments : List String} (hne : segments ≠ [])
    (h : ∀ segment ∈ segments, isIdentifier segment = true) : dotted segments ≠ "" := by
  intro he
  have hs := splitOn_dotted hne h
  rw [he] at hs
  obtain ⟨segment, rest, rfl⟩ := List.exists_cons_of_ne_nil hne
  have hempty : segment = "" := String.toList_injective (List.cons_eq_cons.1 hs).1.symm
  have hid := h segment List.mem_cons_self
  rw [hempty] at hid
  cases hid

/-- Whether a text is made of identifiers, with dots between them. -/
def IsDotted (s : String) : Prop :=
  ∃ segments, segments ≠ [] ∧ (∀ segment ∈ segments, isIdentifier segment = true) ∧
    s = dotted segments

namespace IsDotted
variable {s : String}

theorem isLine (h : IsDotted s) : IsLine s := by
  obtain ⟨segments, -, hs, rfl⟩ := h
  exact isLine_dotted hs

theorem ne_empty (h : IsDotted s) : s ≠ "" := by
  obtain ⟨segments, hne, hs, rfl⟩ := h
  exact dotted_ne_empty hne hs

theorem not_mem (h : IsDotted s) {c : Char} (hc : Unicode.isIdContinue c = false)
    (hdot : c ≠ '.') : c ∉ s.toList := by
  obtain ⟨segments, -, hs, rfl⟩ := h
  exact not_mem_dotted hc hdot hs

end IsDotted

namespace TypeName

def IsProper (t : TypeName) : Prop :=
  ∀ segment ∈ t.segments, isIdentifier segment = true

theorem segments_ofText (given : String) : (ofText given).segments = splitSegments given := by
  have hne : splitSegments given ≠ [] := by
    intro he
    exact List.splitOn_ne_nil '.' _ (List.map_eq_nil_iff.1 he)
  rw [segments, ofText, List.getLastD_eq_getLast?, List.getLast?_eq_some_getLast hne,
    Option.getD_some, List.dropLast_concat_getLast hne]

def stripped (given : String) : String :=
  String.ofList (given.toList.dropWhile (· == '.'))

theorem full_ofText (given : String) : (ofText given).full = stripped given := by
  have hid : String.toList ∘ String.ofList = id := funext fun cs => String.toList_ofList
  have hlist : (dotted (splitSegments given)).toList = given.toList.dropWhile (· == '.') := by
    rw [toList_dotted, splitSegments, List.map_map, hid, List.map_id]
    exact List.intercalate_splitOn '.'
  rw [full, segments_ofText, stripped, ← hlist, String.ofList_toList]

theorem ofText_proper {given : String} (h : isWellFormed given = true) :
    (ofText given).IsProper := by
  intro segment hs
  rw [segments_ofText] at hs
  exact List.all_eq_true.1 h segment hs

namespace IsProper
variable {t : TypeName}

theorem leaf (h : t.IsProper) : isIdentifier t.leaf = true :=
  h t.leaf (List.mem_append_right t.qualifiers List.mem_cons_self)

theorem qualifiers (h : t.IsProper) : ∀ q ∈ t.qualifiers, isIdentifier q = true :=
  fun q hq => h q (List.mem_append_left [t.leaf] hq)

theorem isDotted_leaf (h : t.IsProper) : IsDotted t.leaf :=
  ⟨[t.leaf], List.cons_ne_nil _ _, fun _ hs => List.mem_singleton.1 hs ▸ h.leaf,
    (dotted_singleton t.leaf).symm⟩

theorem isDotted_full (h : t.IsProper) : IsDotted t.full :=
  ⟨t.segments, List.append_ne_nil_of_right_ne_nil _ (List.cons_ne_nil _ _), h, rfl⟩

theorem isLine_space (h : t.IsProper) : IsLine t.space :=
  isLine_dotted h.qualifiers

theorem isDotted_behindParent (h : t.IsProper) {parent : String}
    (hp : t.qualifiers.getLast? = some parent) : IsDotted (dotted [parent, t.leaf]) := by
  refine ⟨_, List.cons_ne_nil _ _, ?_, rfl⟩
  intro segment hs
  rcases List.mem_cons.1 hs with rfl | hs
  · exact h.qualifiers segment (List.mem_of_getLast? hp)
  · cases List.mem_singleton.1 hs
    exact h.leaf

theorem isDotted_short (h : t.IsProper) (home : String) (form : Form) :
    IsDotted (t.spell home form).short := by
  rw [spell]
  split
  · exact h.isDotted_leaf
  · next parent hp =>
    split
    · exact h.isDotted_leaf
    · cases form with
      | plain => exact h.isDotted_leaf
      | withParent => exact h.isDotted_behindParent hp

theorem isLine_needs (h : t.IsProper) {home : String} {form : Form} {name : String}
    (hn : (t.spell home form).needs = some name) : IsLine name := by
  rw [spell] at hn
  split at hn
  · cases hn
  · split at hn
    · cases hn
    · cases form with
      | plain =>
        cases hn
        exact h.isDotted_full.isLine
      | withParent =>
        obtain ⟨-, he⟩ := Option.ite_none_right_eq_some.1 hn
        cases he
        exact h.isLine_space

end IsProper

/-- A text writes a type name if it is made of identifiers with dots between them, dots in front
aside. -/
theorem isWellFormed_iff {given : String} :
    isWellFormed given = true ↔ IsDotted (stripped given) := by
  constructor
  · intro h
    rw [← full_ofText]
    exact (ofText_proper h).isDotted_full
  · rintro ⟨segments, hne, hs, he⟩
    have hl : given.toList.dropWhile (· == '.') = (dotted segments).toList := by
      rw [← he, stripped, String.toList_ofList]
    have hid : String.ofList ∘ String.toList = id := funext fun s => String.ofList_toList
    rw [isWellFormed, splitSegments, hl, splitOn_dotted hne hs, List.map_map, hid, List.map_id]
    exact List.all_eq_true.2 hs

end TypeName

theorem Mention.isDotted_short {r : Mention} (h : r.isWellFormed = true) (home : String) :
    IsDotted (r.short home) :=
  (TypeName.ofText_proper h).isDotted_short home r.form

theorem Mention.isLine_needs {r : Mention} (h : r.isWellFormed = true) {home name : String}
    (hn : r.needs home = some name) : IsLine name :=
  (TypeName.ofText_proper h).isLine_needs hn

theorem ClassModel.isDotted_spelled (m : ClassModel) {name : String}
    (h : TypeName.isWellFormed name = true) : IsDotted (m.spelled name) := by
  have ht := TypeName.ofText_proper h
  rw [spelled, spell]
  split
  · exact ht.isDotted_leaf
  · next parent hp =>
    split
    · exact ht.isDotted_leaf
    · split
      · exact ht.isDotted_behindParent hp
      · exact ht.isDotted_full

theorem ImportTable.mem_insertMany {t : ImportTable} {names : List String} {x : String} :
    x ∈ (t.insertMany names).names ↔ x ∈ t.names ∨ x ∈ names := by
  induction names generalizing t with
  | nil => simp [insertMany]
  | cons name names ih =>
    have hi : x ∈ (t.insert name).names ↔ x = name ∨ x ∈ t.names := mem_insertName
    rw [insertMany, List.foldl_cons, ← insertMany, ih, hi, List.mem_cons, or_assoc, or_left_comm]

theorem ClassModel.isLine_of_mem_referAll {m : ClassModel} {rs : List Mention}
    (hm : ∀ name ∈ m.imports.names, IsLine name) (hr : ∀ r ∈ rs, r.isWellFormed = true) :
    ∀ name ∈ (m.referAll rs).imports.names, IsLine name := by
  intro name hname
  rcases ImportTable.mem_insertMany.1 hname with hname | hname
  · exact hm name hname
  · obtain ⟨r, hmem, hn⟩ := List.mem_filterMap.1 hname
    exact Mention.isLine_needs (hr r hmem) hn

theorem mem_insertSorted_iff {x y : String} {names : List String} :
    x ∈ insertSorted y names ↔ x = y ∨ x ∈ names := by
  induction names with
  | nil => simp [insertSorted]
  | cons z names ih =>
    rw [insertSorted]
    split
    · rw [List.mem_cons, List.mem_cons, ih, or_left_comm]
    · rw [List.mem_cons]

theorem mem_sortNames_iff {x : String} {names : List String} :
    x ∈ sortNames names ↔ x ∈ names := by
  induction names with
  | nil => rfl
  | cons y names ih =>
    have hs : sortNames (y :: names) = insertSorted y (sortNames names) := rfl
    rw [hs, mem_insertSorted_iff, ih, List.mem_cons]

theorem mem_distinctNames_iff {x : String} {names : List String} :
    x ∈ distinctNames names ↔ x ∈ names := by
  induction names with
  | nil => rfl
  | cons y names ih =>
    have hd : distinctNames (y :: names) = insertName y (distinctNames names) := rfl
    rw [hd, mem_insertName, ih, List.mem_cons]

namespace Source

theorem isLine_splitLast {name : String} (h : IsLine name) :
    IsLine (splitLast name).1 ∧ IsLine (splitLast name).2 := by
  constructor
  · intro c hc
    rw [splitLast, String.toList_ofList, List.mem_reverse] at hc
    have hd := (List.dropWhile_sublist _).mem (List.mem_of_mem_drop hc)
    exact h c (List.mem_reverse.1 hd)
  · intro c hc
    rw [splitLast, String.toList_ofList, List.mem_reverse] at hc
    exact h c (List.mem_reverse.1 ((List.takeWhile_sublist _).mem hc))

theorem isLine_of_mem_namesFrom {module name : String} {names : List String}
    (h : ∀ n ∈ names, IsLine n) (hn : name ∈ namesFrom module names) : IsLine name := by
  obtain ⟨pair, hpair, rfl⟩ := List.mem_map.1 (mem_sortNames_iff.1 hn)
  obtain ⟨n, hmem, rfl⟩ := List.mem_map.1 (List.mem_filter.1 hpair).1
  exact (isLine_splitLast (h n hmem)).2

theorem isLine_of_mem_importLines {t : ImportTable} (h : ∀ name ∈ t.names, IsLine name) :
    ∀ line ∈ importLines t, IsLine line := by
  intro line hline
  rw [importLines] at hline
  rcases List.mem_append.1 hline with hline | hline
  · obtain ⟨name, hname, rfl⟩ := List.mem_map.1 hline
    exact IsLine.append (by decide) (isLine_of_mem_namesFrom h hname)
  · obtain ⟨module, hmodule, rfl⟩ := List.mem_map.1 hline
    obtain ⟨n, hn, rfl⟩ := List.mem_map.1 (List.mem_filter.1 (mem_distinctNames_iff.1 hmodule)).1
    have hfrom : IsLine (splitLast n).1 := (isLine_splitLast (h n hn)).1
    have hnames : IsLine (", ".intercalate (namesFrom (splitLast n).1 t.names)) :=
      isLine_intercalate (by decide) fun name hname => isLine_of_mem_namesFrom h hname
    exact (((show IsLine "from " by decide).append hfrom).append (by decide)).append hnames

end Source

end ClientGen
