import ClientGen.Proofs.ImportLines
import ClientGen.Proofs.Imports
import Mathlib.Data.String.Basic

namespace ClientGen

theorem pairwise_insertSorted {x : String} {names : List String} (hx : x ∉ names)
    (h : names.Pairwise (· < ·)) : (insertSorted x names).Pairwise (· < ·) := by
  induction names with
  | nil => exact List.pairwise_singleton _ x
  | cons y names ih =>
    obtain ⟨hy, hnames⟩ := List.pairwise_cons.1 h
    have hne := List.ne_of_not_mem_cons hx
    rw [insertSorted]
    split
    · next hyx =>
      refine List.pairwise_cons.2 ⟨?_, ih (List.not_mem_of_not_mem_cons hx) hnames⟩
      intro z hz
      rcases mem_insertSorted_iff.1 hz with rfl | hz
      · exact hyx
      · exact hy z hz
    · next hyx =>
      have hxy : x < y := Std.lt_of_le_of_ne (String.not_lt.1 hyx) hne
      refine List.pairwise_cons.2 ⟨?_, h⟩
      intro z hz
      rcases List.mem_cons.1 hz with rfl | hz
      · exact hxy
      · exact String.lt_trans hxy (hy z hz)

theorem pairwise_sortNames {names : List String} (h : names.Nodup) :
    (sortNames names).Pairwise (· < ·) := by
  induction names with
  | nil => exact .nil
  | cons x names ih =>
    obtain ⟨hx, hnames⟩ := List.nodup_cons.1 h
    exact pairwise_insertSorted (fun hmem => hx (mem_sortNames_iff.1 hmem)) (ih hnames)

theorem pairwise_distinctNames (names : List String) :
    (distinctNames names).Pairwise (· < ·) := by
  induction names with
  | nil => exact .nil
  | cons x names ih => exact pairwise_insertName x ih

theorem IsDotted.exists_typeName {s : String} (h : IsDotted s) :
    ∃ u : TypeName, u.IsProper ∧ s = u.full := by
  obtain ⟨segments, hne, hs, rfl⟩ := h
  refine ⟨⟨segments.dropLast, segments.getLast hne⟩, ?_, ?_⟩
  · intro segment hmem
    rw [TypeName.segments, List.dropLast_concat_getLast hne] at hmem
    exact hs segment hmem
  · rw [TypeName.full, TypeName.segments, List.dropLast_concat_getLast hne]

theorem ImportTable.isProper_of_dotted {t : ImportTable} (h : ∀ name ∈ t.names, IsDotted name) :
    t.IsProper :=
  fun name hname => (h name hname).exists_typeName

theorem space_lt_of_isIdContinue {c : Char} (h : Unicode.isIdContinue c = true) : ' ' < c := by
  by_cases hc : c.toNat < 128
  · have ha := Unicode.of_ascii (q := fun c => !Unicode.isIdContinue c || decide (' ' < c))
      (by decide) hc
    rw [h] at ha
    exact of_decide_eq_true ha
  · have hlt : ' '.toNat < c.toNat := Nat.lt_of_lt_of_le (by decide) (Nat.not_lt.1 hc)
    exact hlt

theorem IsDotted.space_lt {s : String} (h : IsDotted s) : ∀ c ∈ s.toList, ' ' < c := by
  obtain ⟨segments, -, hs, rfl⟩ := h
  have hdot : ∀ c ∈ ['.'], ' ' < c := List.forall_mem_singleton.2 (by decide)
  refine Text.forall_mem_intercalate hdot ?_
  intro segment hmem c hc
  exact space_lt_of_isIdContinue (Text.isIdContinue_of_isIdentifier (hs segment hmem) c hc)

namespace Source

def moduleLine (module : String) : String :=
  "import " ++ module

/-- A module and the names that are imported from it. -/
structure Origin where
  module : String
  names : List String

def Origin.line (o : Origin) : String :=
  "from " ++ o.module ++ " import " ++ ", ".intercalate o.names

/-- Whether modules and origins are in order, as names and as lines, with nothing met twice. -/
structure InOrder (modules : List String) (origins : List Origin) : Prop where
  modules_ascend : modules.Pairwise (· < ·)
  moduleLines_ascend : (modules.map moduleLine).Pairwise (· < ·)
  origins_ascend : (origins.map Origin.module).Pairwise (· < ·)
  originLines_ascend : (origins.map Origin.line).Pairwise (· < ·)
  names_ascend : ∀ o ∈ origins, o.names ≠ [] ∧ o.names.Pairwise (· < ·)

/-- The modules that the names of a table come from. -/
def originsOf (t : ImportTable) : List Origin :=
  (distinctNames ((t.names.map fun n => (splitLast n).1).filter (· != ""))).map
    fun module => ⟨module, namesFrom module t.names⟩

theorem importLines_eq (t : ImportTable) :
    importLines t =
      (namesFrom "" t.names).map moduleLine ++ (originsOf t).map Origin.line := by
  rw [originsOf, List.map_map]
  rfl

/-- A name that is imported from a module, or a module at the top. -/
def qualified (module name : String) : String :=
  if module = "" then name else module ++ "." ++ name

theorem splitLast_qualified (module : String) {name : String} (h : '.' ∉ name.toList) :
    splitLast (qualified module name) = (module, name) := by
  rw [qualified]
  split
  · next he => rw [he, splitLast_of_plain h]
  · exact splitLast_of_dotted module h

theorem qualified_space_leaf {u : TypeName} (h : u.IsProper) : qualified u.space u.leaf = u.full := by
  rw [qualified]
  split
  · next he => exact (TypeName.full_of_bare (h.space_eq_empty_iff.1 he)).symm
  · next hne =>
    exact (TypeName.full_of_qualified fun he => hne (h.space_eq_empty_iff.2 he)).symm

variable {t : ImportTable}

theorem splitLast_inj (ht : t.IsProper) {x y : String} (hx : x ∈ t.names) (hy : y ∈ t.names)
    (h : splitLast x = splitLast y) : x = y := by
  obtain ⟨u, hu, rfl⟩ := ht x hx
  obtain ⟨v, hv, rfl⟩ := ht y hy
  rw [splitLast_full hu, splitLast_full hv] at h
  obtain ⟨hspace, hleaf⟩ := Prod.ext_iff.1 h
  rw [← qualified_space_leaf hu, ← qualified_space_leaf hv]
  exact congrArg₂ qualified hspace hleaf

theorem pairwise_namesFrom (ht : t.IsProper) (module : String) :
    (namesFrom module t.names).Pairwise (· < ·) := by
  apply pairwise_sortNames
  have hsplit : (t.names.map splitLast).Nodup :=
    List.Nodup.map_on (fun x hx y hy he => splitLast_inj ht hx hy he)
      t.ascending.nodup
  refine List.Nodup.map_on ?_ (hsplit.filter _)
  intro x hx y hy he
  have hxm := eq_of_beq (List.mem_filter.1 hx).2
  have hym := eq_of_beq (List.mem_filter.1 hy).2
  exact Prod.ext (hxm.trans hym.symm) he

theorem isIdentifier_of_mem_namesFrom (ht : t.IsProper) {module name : String}
    (h : name ∈ namesFrom module t.names) : isIdentifier name = true := by
  obtain ⟨u, hu, -, -, rfl⟩ := proper_of_mem_namesFrom ht h
  exact hu.leaf

theorem mem_originsOf (ht : t.IsProper) {o : Origin} (h : o ∈ originsOf t) :
    o.module ≠ "" ∧ o.names = namesFrom o.module t.names ∧ o.names ≠ [] ∧ IsDotted o.module := by
  obtain ⟨module, hmodule, rfl⟩ := List.mem_map.1 h
  obtain ⟨hmem, hne⟩ := List.mem_filter.1 (mem_distinctNames_iff.1 hmodule)
  obtain ⟨name, hname, rfl⟩ := List.mem_map.1 hmem
  have hfrom : (splitLast name).2 ∈ namesFrom (splitLast name).1 t.names :=
    mem_namesFrom_iff.2 ⟨name, hname, rfl⟩
  refine ⟨bne_iff_ne.1 hne, rfl, List.ne_nil_of_mem hfrom, ?_⟩
  obtain ⟨u, hu, -, hspace, -⟩ := proper_of_mem_namesFrom ht hfrom
  rw [← hspace]
  refine ⟨u.qualifiers, ?_, hu.qualifiers, rfl⟩
  intro hbare
  exact bne_iff_ne.1 hne (hspace ▸ hu.space_eq_empty_iff.2 hbare)

theorem pairwise_modules_originsOf (t : ImportTable) :
    ((originsOf t).map Origin.module).Pairwise (· < ·) := by
  have hid : Origin.module ∘ (fun module => ⟨module, namesFrom module t.names⟩) = id := rfl
  rw [originsOf, List.map_map, hid, List.map_id]
  exact pairwise_distinctNames _

theorem flatMap_importedBy (ht : t.IsProper) :
    (importLines t).flatMap importedBy =
      ("" :: (originsOf t).map Origin.module).flatMap fun module =>
        (namesFrom module t.names).map (qualified module) := by
  have hmodules : ((namesFrom "" t.names).map moduleLine).flatMap importedBy =
      (namesFrom "" t.names).map (qualified "") := by
    rw [List.flatMap_map, List.map_eq_flatMap]
    apply List.flatMap_congr
    intro name hname
    exact (importedBy_module_line ht hname).1
  have horigins : ((originsOf t).map Origin.line).flatMap importedBy =
      ((originsOf t).map Origin.module).flatMap fun module =>
        (namesFrom module t.names).map (qualified module) := by
    rw [List.flatMap_map, List.flatMap_map]
    apply List.flatMap_congr
    intro o ho
    obtain ⟨hne, hnames, hsome, -⟩ := mem_originsOf ht ho
    rw [hnames] at hsome
    have hqualified : qualified o.module = fun name => o.module ++ "." ++ name :=
      funext fun name => if_neg hne
    rw [Origin.line, hnames, hqualified]
    exact (importedBy_names_line ht hne hsome).1
  rw [importLines_eq, List.flatMap_append, hmodules, horigins, List.flatMap_cons]

theorem nodup_flatMap_importedBy (ht : t.IsProper) :
    ((importLines t).flatMap importedBy).Nodup := by
  -- names of one module differ in what stands behind the last dot, others in what stands before it
  apply List.Nodup.of_map splitLast
  have hpairs : ((importLines t).flatMap importedBy).map splitLast =
      ("" :: (originsOf t).map Origin.module).flatMap fun module =>
        (namesFrom module t.names).map (Prod.mk module) := by
    rw [flatMap_importedBy ht, List.map_flatMap]
    apply List.flatMap_congr
    intro module _
    rw [List.map_map]
    apply List.map_congr_left
    intro name hname
    exact splitLast_qualified module
      (not_mem_of_isIdentifier (by decide) (isIdentifier_of_mem_namesFrom ht hname))
  have hmodules : ("" :: (originsOf t).map Origin.module).Nodup := by
    refine List.nodup_cons.2 ⟨?_, (pairwise_modules_originsOf t).nodup⟩
    intro hmem
    obtain ⟨o, ho, he⟩ := List.mem_map.1 hmem
    exact (mem_originsOf ht ho).1 he
  rw [hpairs, List.nodup_flatMap]
  constructor
  · intro module _
    exact (pairwise_namesFrom ht module).nodup.map (Prod.mk_right_injective module)
  · refine hmodules.imp ?_
    intro module other hne pair hpair hother
    obtain ⟨_, -, rfl⟩ := List.mem_map.1 hpair
    obtain ⟨_, -, he⟩ := List.mem_map.1 hother
    exact hne (Prod.ext_iff.1 he).1.symm

/-- A space ends a name in front of all longer ones, so that what follows it does not matter. -/
theorem append_space_lt {xs ys : List Char} (h : xs < ys) (hys : ∀ c ∈ ys, ' ' < c)
    (r s : List Char) : xs ++ ' ' :: r < ys ++ ' ' :: s := by
  induction xs generalizing ys with
  | nil =>
    cases ys with
    | nil => cases h
    | cons y ys => exact List.cons_lt_cons_iff.2 (.inl (hys y List.mem_cons_self))
  | cons x xs ih =>
    cases ys with
    | nil => cases h
    | cons y ys =>
      rcases List.cons_lt_cons_iff.1 h with hlt | ⟨rfl, hlt⟩
      · exact List.cons_lt_cons_iff.2 (.inl hlt)
      · refine List.cons_lt_cons_iff.2 (.inr ⟨rfl, ?_⟩)
        exact ih hlt fun c hc => hys c (List.mem_cons_of_mem _ hc)

theorem moduleLine_lt {x y : String} (h : x < y) : moduleLine x < moduleLine y := by
  rw [String.lt_iff_toList_lt] at h ⊢
  rw [moduleLine, moduleLine, String.toList_append, String.toList_append]
  exact List.append_left_lt h

theorem toList_originLine (o : Origin) :
    o.line.toList = "from ".toList ++
      (o.module.toList ++ ' ' :: ("import ".toList ++ (", ".intercalate o.names).toList)) := by
  have himport : " import ".toList = ' ' :: "import ".toList := rfl
  rw [Origin.line, String.toList_append, String.toList_append, String.toList_append, himport]
  simp only [List.append_assoc, List.cons_append]

theorem originLine_lt {o p : Origin} (h : o.module < p.module) (hp : IsDotted p.module) :
    o.line < p.line := by
  rw [String.lt_iff_toList_lt] at h ⊢
  rw [toList_originLine, toList_originLine]
  exact List.append_left_lt (append_space_lt h hp.space_lt _ _)

theorem inOrder_originsOf (ht : t.IsProper) : InOrder (namesFrom "" t.names) (originsOf t) where
  modules_ascend := pairwise_namesFrom ht ""
  moduleLines_ascend := (pairwise_namesFrom ht "").map moduleLine fun _ _ => moduleLine_lt
  origins_ascend := pairwise_modules_originsOf t
  originLines_ascend := by
    refine List.pairwise_map.2 ?_
    refine (List.pairwise_map.1 (pairwise_modules_originsOf t)).imp_of_mem ?_
    intro o p _ hp hlt
    exact originLine_lt hlt (mem_originsOf ht hp).2.2.2
  names_ascend := by
    intro o ho
    obtain ⟨-, hnames, hne, -⟩ := mem_originsOf ht ho
    refine ⟨hne, ?_⟩
    rw [hnames]
    exact pairwise_namesFrom ht o.module

/-- The import lines of a table of dotted names, read back, bring in each of its names once and no
others; they are in order; and names that were registered in any other order give the same lines. -/
theorem importLines_decode (t : ImportTable) (ht : ∀ name ∈ t.names, IsDotted name) :
    ((importLines t).flatMap importedBy).Nodup ∧
    (∀ name, name ∈ (importLines t).flatMap importedBy ↔ t.has name = true) ∧
    (∃ modules origins,
      importLines t = modules.map moduleLine ++ origins.map Origin.line ∧ InOrder modules origins) ∧
    ∀ registered, (∀ name, name ∈ registered ↔ t.has name = true) →
      importLines (ImportTable.empty.insertMany registered) = importLines t := by
  have hproper := ImportTable.isProper_of_dotted ht
  have hhas : ∀ name, t.has name = true ↔ name ∈ t.names := fun name => List.contains_iff_mem
  refine ⟨nodup_flatMap_importedBy hproper, ?_, ?_, ?_⟩
  · intro name
    rw [List.mem_flatMap, mem_importedBy_iff hproper, hhas]
  · exact ⟨_, _, importLines_eq t, inOrder_originsOf hproper⟩
  · intro registered hregistered
    have heq : ImportTable.empty.insertMany registered = t := by
      apply ImportTable.eq_of_mem_iff
      intro name
      rw [ImportTable.mem_insertMany, hregistered, hhas]
      exact or_iff_right List.not_mem_nil
    rw [heq]

/-- Names of which some continue others, and a module that is named as a word of the lines. -/
def nestedNames : ImportTable :=
  .insertMany .empty ["a.b.c", "x.import", "a", "a.b", "a.B", "a.b"]

theorem nestedNames_decode :
    (∀ name ∈ nestedNames.names, IsDotted name) ∧
    importLines nestedNames =
      ["import a", "from a import B, b", "from a.b import c", "from x import import"] ∧
    ((importLines nestedNames).flatMap importedBy).Nodup ∧
    "x.import" ∈ (importLines nestedNames).flatMap importedBy ∧
    importLines (.insertMany .empty ["a", "a.B", "a.b", "a.b.c", "x.import"]) =
      importLines nestedNames := by
  have hdotted : ∀ name ∈ nestedNames.names, IsDotted name := by
    have hwell : ∀ name ∈ nestedNames.names,
        TypeName.isWellFormed name = true ∧ TypeName.stripped name = name := by decide
    intro name hname
    obtain ⟨hw, hs⟩ := hwell name hname
    rw [← hs]
    exact TypeName.isWellFormed_iff.1 hw
  obtain ⟨hnodup, hmem, -, hregistered⟩ := importLines_decode nestedNames hdotted
  refine ⟨hdotted, by decide, hnodup, (hmem _).2 (by decide), hregistered _ ?_⟩
  have hnames : nestedNames.names = ["a", "a.B", "a.b", "a.b.c", "x.import"] := by decide
  intro name
  rw [ImportTable.has, hnames, List.contains_iff_mem]

end Source

end ClientGen
