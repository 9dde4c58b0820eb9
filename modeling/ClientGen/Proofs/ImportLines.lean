import ClientGen.Proofs.Spelling

namespace ClientGen

namespace TypeName

theorem full_of_bare {t : TypeName} (h : t.qualifiers = []) : t.full = t.leaf := by
  rw [full, segments, h, List.nil_append, dotted_singleton]

theorem full_of_qualified {t : TypeName} (h : t.qualifiers ≠ []) :
    t.full = t.space ++ "." ++ t.leaf := by
  rw [full, segments, dotted, String.intercalate_append_of_ne_nil h (List.cons_ne_nil t.leaf []),
    String.intercalate_singleton]
  rfl

theorem IsProper.space_eq_empty_iff {t : TypeName} (h : t.IsProper) :
    t.space = "" ↔ t.qualifiers = [] := by
  constructor
  · intro he
    by_contra hne
    exact dotted_ne_empty hne h.qualifiers he
  · intro he
    rw [space, he]
    rfl

end TypeName

namespace Source

theorem ne_dot_of_mem_reverse {leaf : String} (h : '.' ∉ leaf.toList) :
    ∀ c ∈ leaf.toList.reverse, (c != '.') = true := by
  intro c hc
  rw [bne_iff_ne]
  rintro rfl
  exact h (List.mem_reverse.1 hc)

theorem splitLast_of_plain {leaf : String} (h : '.' ∉ leaf.toList) : splitLast leaf = ("", leaf) := by
  have hall := ne_dot_of_mem_reverse h
  rw [splitLast, ← List.append_nil leaf.toList.reverse, List.takeWhile_append_of_pos hall,
    List.dropWhile_append_of_pos hall]
  simp

theorem splitLast_of_dotted (module : String) {leaf : String} (h : '.' ∉ leaf.toList) :
    splitLast (module ++ "." ++ leaf) = (module, leaf) := by
  have hall := ne_dot_of_mem_reverse h
  have hdot : ".".toList = ['.'] := rfl
  have hr : (module ++ "." ++ leaf).toList.reverse =
      leaf.toList.reverse ++ '.' :: module.toList.reverse := by
    simp only [String.toList_append, hdot, List.reverse_append, List.reverse_cons,
      List.reverse_nil, List.nil_append, List.singleton_append]
  rw [splitLast, hr, List.takeWhile_append_of_pos hall, List.dropWhile_append_of_pos hall]
  simp

theorem splitLast_full {t : TypeName} (h : t.IsProper) : splitLast t.full = (t.space, t.leaf) := by
  have hdot := not_mem_of_isIdentifier (c := '.') (by decide) h.leaf
  by_cases hq : t.qualifiers = []
  · rw [TypeName.full_of_bare hq, splitLast_of_plain hdot, h.space_eq_empty_iff.2 hq]
  · rw [TypeName.full_of_qualified hq, splitLast_of_dotted t.space hdot]

theorem mem_namesFrom_iff {module name : String} {names : List String} :
    name ∈ namesFrom module names ↔ ∃ n ∈ names, splitLast n = (module, name) := by
  rw [namesFrom, mem_sortNames_iff]
  constructor
  · intro h
    obtain ⟨pair, hpair, rfl⟩ := List.mem_map.1 h
    obtain ⟨hmem, hm⟩ := List.mem_filter.1 hpair
    obtain ⟨n, hn, rfl⟩ := List.mem_map.1 hmem
    exact ⟨n, hn, Prod.ext (eq_of_beq hm) rfl⟩
  · rintro ⟨n, hn, hs⟩
    refine List.mem_map.2 ⟨(module, name), List.mem_filter.2 ⟨?_, beq_self_eq_true module⟩, rfl⟩
    exact List.mem_map.2 ⟨n, hn, hs⟩

def wordsOf (line : String) : List String :=
  (line.toList.splitOn ' ').map String.ofList

def beforeComma (word : String) : String :=
  String.ofList (word.toList.takeWhile (· != ','))

/-- The qualified names that an import line brings in. -/
def importedBy (line : String) : List String :=
  match wordsOf line with
  | ["import", name] => [name]
  | "from" :: module :: "import" :: names => names.map fun name => module ++ "." ++ beforeComma name
  | _ => []

theorem wordsOf_intercalate {words : List String} (hne : words ≠ [])
    (h : ∀ word ∈ words, ' ' ∉ word.toList) : wordsOf (" ".intercalate words) = words := by
  have hspace : " ".toList = [' '] := rfl
  have hblank : ∀ cs ∈ words.map String.toList, ' ' ∉ cs := by
    intro cs hcs
    obtain ⟨word, hword, rfl⟩ := List.mem_map.1 hcs
    exact h word hword
  rw [wordsOf, String.toList_intercalate, hspace, List.splitOn_intercalate ' ' hblank
    (fun he => hne (List.map_eq_nil_iff.1 he)), List.map_map]
  have hid : String.ofList ∘ String.toList = id := funext fun s => String.ofList_toList
  rw [hid, List.map_id]

/-- Words, each but the last with a comma behind it. -/
def withCommas : List String → List String
  | [] => []
  | [word] => [word]
  | word :: next :: words => (word ++ ",") :: withCommas (next :: words)

theorem withCommas_ne_nil {words : List String} (h : words ≠ []) : withCommas words ≠ [] := by
  obtain ⟨word, words, rfl⟩ := List.exists_cons_of_ne_nil h
  cases words <;> exact List.cons_ne_nil _ _

theorem intercalate_withCommas (words : List String) :
    " ".intercalate (withCommas words) = ", ".intercalate words := by
  induction words using withCommas.induct with
  | case1 => rfl
  | case2 word => rw [withCommas, String.intercalate_singleton, String.intercalate_singleton]
  | case3 word next words ih =>
    have hne := withCommas_ne_nil (List.cons_ne_nil next words)
    have hcomma : word ++ "," ++ " " = word ++ ", " := by
      rw [String.append_assoc]
      rfl
    rw [withCommas, String.intercalate_cons_of_ne_nil hne, ih, String.intercalate_cons_cons,
      hcomma]

theorem not_mem_withCommas {c : Char} (hc : c ≠ ',') {words : List String}
    (h : ∀ word ∈ words, c ∉ word.toList) : ∀ word ∈ withCommas words, c ∉ word.toList := by
  induction words using withCommas.induct with
  | case1 => exact fun word hword => nomatch hword
  | case2 word => exact h
  | case3 word next words ih =>
    intro x hx
    rw [withCommas] at hx
    rcases List.mem_cons.1 hx with rfl | hx
    · rw [String.toList_append, List.mem_append, not_or]
      exact ⟨h word List.mem_cons_self, List.not_mem_cons_of_ne_of_not_mem hc List.not_mem_nil⟩
    · exact ih (fun y hy => h y (List.mem_cons_of_mem word hy)) x hx

theorem beforeComma_append {word : String} (h : ',' ∉ word.toList) (rest : String) :
    beforeComma (word ++ rest) = word ++ beforeComma rest := by
  have hall : ∀ c ∈ word.toList, (c != ',') = true := by
    intro c hc
    rw [bne_iff_ne]
    rintro rfl
    exact h hc
  rw [beforeComma, beforeComma, String.toList_append, List.takeWhile_append_of_pos hall,
    String.ofList_append, String.ofList_toList]

theorem map_beforeComma_withCommas {words : List String} (h : ∀ word ∈ words, ',' ∉ word.toList) :
    (withCommas words).map beforeComma = words := by
  have hone : ∀ word ∈ words, beforeComma word = word := by
    intro word hword
    have hw := beforeComma_append (h word hword) ""
    rw [String.append_empty] at hw
    exact hw.trans String.append_empty
  induction words using withCommas.induct with
  | case1 => rfl
  | case2 word => exact List.singleton_inj.2 (hone word List.mem_cons_self)
  | case3 word next words ih =>
    have hcomma : beforeComma (word ++ ",") = word :=
      (beforeComma_append (h word List.mem_cons_self) ",").trans String.append_empty
    rw [withCommas, List.map_cons, hcomma]
    congr 1
    exact ih (fun y hy => h y (List.mem_cons_of_mem word hy))
      fun y hy => hone y (List.mem_cons_of_mem word hy)

theorem importedBy_import {name : String} (h : ' ' ∉ name.toList) :
    importedBy ("import " ++ name) = [name] := by
  have hl : "import " ++ name = " ".intercalate ["import", name] := by
    rw [String.intercalate_cons_cons, String.intercalate_singleton]
    rfl
  have hw : wordsOf ("import " ++ name) = ["import", name] := by
    rw [hl]
    apply wordsOf_intercalate (List.cons_ne_nil _ _)
    intro word hword
    rcases List.mem_cons.1 hword with rfl | hword
    · decide
    · rwa [List.mem_singleton.1 hword]
  rw [importedBy, hw]
  rfl

theorem importedBy_from {module : String} {names : List String} (hne : names ≠ [])
    (hm : ' ' ∉ module.toList) (hn : ∀ name ∈ names, ' ' ∉ name.toList ∧ ',' ∉ name.toList) :
    importedBy ("from " ++ module ++ " import " ++ ", ".intercalate names) =
      names.map fun name => module ++ "." ++ name := by
  have hwords := withCommas_ne_nil hne
  have hl : "from " ++ module ++ " import " ++ ", ".intercalate names =
      " ".intercalate ("from" :: module :: "import" :: withCommas names) := by
    have hfrom : "from " = "from" ++ " " := rfl
    have himport : " import " = " " ++ ("import" ++ " ") := rfl
    rw [String.intercalate_cons_cons, String.intercalate_cons_cons,
      String.intercalate_cons_of_ne_nil hwords, intercalate_withCommas, hfrom, himport]
    simp only [String.append_assoc]
  have hw : wordsOf ("from " ++ module ++ " import " ++ ", ".intercalate names) =
      "from" :: module :: "import" :: withCommas names := by
    rw [hl]
    apply wordsOf_intercalate (List.cons_ne_nil _ _)
    intro word hword
    rcases List.mem_cons.1 hword with rfl | hword
    · decide
    rcases List.mem_cons.1 hword with rfl | hword
    · exact hm
    rcases List.mem_cons.1 hword with rfl | hword
    · decide
    · exact not_mem_withCommas (by decide) (fun name hname => (hn name hname).1) word hword
  have hmap : (withCommas names).map (fun name => module ++ "." ++ beforeComma name) =
      ((withCommas names).map beforeComma).map fun name => module ++ "." ++ name :=
    List.map_map.symm
  rw [map_beforeComma_withCommas fun name hname => (hn name hname).2] at hmap
  rw [importedBy, hw]
  exact hmap

end Source

/-- Whether all names of a table are dotted identifiers. -/
def ImportTable.IsProper (t : ImportTable) : Prop :=
  ∀ name ∈ t.names, ∃ u : TypeName, u.IsProper ∧ name = u.full

namespace Source
variable {t : ImportTable}

theorem proper_of_mem_namesFrom (ht : t.IsProper) {module name : String}
    (h : name ∈ namesFrom module t.names) :
    ∃ u : TypeName, u.IsProper ∧ u.full ∈ t.names ∧ u.space = module ∧ u.leaf = name := by
  obtain ⟨n, hn, hs⟩ := mem_namesFrom_iff.1 h
  obtain ⟨u, hu, rfl⟩ := ht n hn
  rw [splitLast_full hu] at hs
  cases hs
  exact ⟨u, hu, hn, rfl, rfl⟩

theorem importedBy_module_line (ht : t.IsProper) {name : String}
    (h : name ∈ namesFrom "" t.names) :
    importedBy ("import " ++ name) = [name] ∧ name ∈ t.names := by
  obtain ⟨u, hu, hmem, hspace, rfl⟩ := proper_of_mem_namesFrom ht h
  rw [TypeName.full_of_bare (hu.space_eq_empty_iff.1 hspace)] at hmem
  exact ⟨importedBy_import (not_mem_of_isIdentifier (by decide) hu.leaf), hmem⟩

theorem importedBy_names_line (ht : t.IsProper) {module : String} (hm : module ≠ "")
    (hne : namesFrom module t.names ≠ []) :
    importedBy ("from " ++ module ++ " import " ++ ", ".intercalate (namesFrom module t.names)) =
        (namesFrom module t.names).map (fun name => module ++ "." ++ name) ∧
      ∀ name ∈ namesFrom module t.names, module ++ "." ++ name ∈ t.names := by
  obtain ⟨first, hfirst⟩ := List.exists_mem_of_ne_nil _ hne
  constructor
  · apply importedBy_from hne
    · obtain ⟨u, hu, -, rfl, -⟩ := proper_of_mem_namesFrom ht hfirst
      exact not_mem_dotted (by decide) (by decide) hu.qualifiers
    · intro name hname
      obtain ⟨u, hu, -, -, rfl⟩ := proper_of_mem_namesFrom ht hname
      exact ⟨not_mem_of_isIdentifier (by decide) hu.leaf,
        not_mem_of_isIdentifier (by decide) hu.leaf⟩
  · intro name hname
    obtain ⟨u, hu, hmem, rfl, rfl⟩ := proper_of_mem_namesFrom ht hname
    rwa [TypeName.full_of_qualified fun he => hm (hu.space_eq_empty_iff.2 he)] at hmem

theorem importLine_cases {line : String} (h : line ∈ importLines t) :
    (∃ name ∈ namesFrom "" t.names, line = "import " ++ name) ∨
      ∃ module, module ≠ "" ∧ namesFrom module t.names ≠ [] ∧
        line = "from " ++ module ++ " import " ++ ", ".intercalate (namesFrom module t.names) := by
  rcases List.mem_append.1 h with h | h
  · obtain ⟨name, hname, rfl⟩ := List.mem_map.1 h
    exact .inl ⟨name, hname, rfl⟩
  · obtain ⟨module, hmodule, rfl⟩ := List.mem_map.1 h
    obtain ⟨hmem, hne⟩ := List.mem_filter.1 (mem_distinctNames_iff.1 hmodule)
    obtain ⟨n, hn, rfl⟩ := List.mem_map.1 hmem
    have hfrom : (splitLast n).2 ∈ namesFrom (splitLast n).1 t.names :=
      mem_namesFrom_iff.2 ⟨n, hn, rfl⟩
    exact .inr ⟨_, bne_iff_ne.1 hne, List.ne_nil_of_mem hfrom, rfl⟩

theorem mem_importedBy_iff (ht : t.IsProper) {name : String} :
    (∃ line ∈ importLines t, name ∈ importedBy line) ↔ name ∈ t.names := by
  constructor
  · rintro ⟨line, hline, hname⟩
    rcases importLine_cases hline with ⟨n, hn, rfl⟩ | ⟨module, hmodule, hne, rfl⟩
    · obtain ⟨hread, hmem⟩ := importedBy_module_line ht hn
      rw [hread] at hname
      rwa [List.mem_singleton.1 hname]
    · obtain ⟨hread, hall⟩ := importedBy_names_line ht hmodule hne
      rw [hread] at hname
      obtain ⟨leaf, hleaf, rfl⟩ := List.mem_map.1 hname
      exact hall leaf hleaf
  · intro hname
    obtain ⟨u, hu, rfl⟩ := ht name hname
    have hfrom : u.leaf ∈ namesFrom u.space t.names :=
      mem_namesFrom_iff.2 ⟨u.full, hname, splitLast_full hu⟩
    by_cases hspace : u.space = ""
    · rw [hspace] at hfrom
      refine ⟨_, List.mem_append_left _ (List.mem_map_of_mem hfrom), ?_⟩
      rw [(importedBy_module_line ht hfrom).1, List.mem_singleton]
      exact TypeName.full_of_bare (hu.space_eq_empty_iff.1 hspace)
    · have hmodule : u.space ∈ (t.names.map fun n => (splitLast n).1).filter (· != "") := by
        refine List.mem_filter.2 ⟨List.mem_map.2 ⟨u.full, hname, ?_⟩, bne_iff_ne.2 hspace⟩
        rw [splitLast_full hu]
      refine ⟨_, List.mem_append_right _ (List.mem_map_of_mem
        (mem_distinctNames_iff.2 hmodule)), ?_⟩
      rw [(importedBy_names_line ht hspace (List.ne_nil_of_mem hfrom)).1]
      refine List.mem_map.2 ⟨u.leaf, hfrom, ?_⟩
      exact (TypeName.full_of_qualified fun he => hspace (hu.space_eq_empty_iff.2 he)).symm

end Source

end ClientGen
