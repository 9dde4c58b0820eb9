import ClientGen.Proofs.Annotation

namespace ClientGen

theorem resolve_of_wellFormed {written : String} (h : TypeName.isWellFormed written = true)
    (form : TypeName.Form) (m : ClassModel) :
    resolve form written m =
      (.ok (Mention.short m.home ⟨form, written⟩), m.referAll [⟨form, written⟩]) :=
  (Edit.Resolves.resolve form written).run_ok (Mention.firstFault?_of_wellFormed h form) m

theorem resolve_of_malformed {written : String} (h : TypeName.isWellFormed written = false)
    (form : TypeName.Form) (m : ClassModel) :
    resolve form written m = (.error (.malformedTypeName written), m) := by
  have hr : (⟨form, written⟩ : Mention).isWellFormed = false := h
  rw [(Edit.Resolves.resolve form written).run_error (Mention.firstFault?_of_malformed h form) m,
    List.takeWhile_cons_of_neg (Bool.eq_false_iff.1 hr), ClassModel.referAll_nil]

theorem TypeName.short_plain (t : TypeName) (home : String) :
    (t.spell home .plain).short = t.leaf := by
  rw [spell]
  split
  · rfl
  · split <;> rfl

namespace ClassModel

theorem lookUp_of_malformed (m : ClassModel) {written : String}
    (h : TypeName.isWellFormed written = false) :
    m.lookUp written = .error (.malformedTypeName written) := by
  rw [lookUp, TypeName.parse_of_malformed h]
  rfl

theorem referAll_singleton (m : ClassModel) (r : Mention) :
    m.referAll [r] = m ∨ ∃ name ∉ m.imports.names, m.referAll [r] = m.addImport name := by
  rw [← refer_eq_referAll, refer]
  cases (r.spelling m.home).needs with
  | none => exact .inl rfl
  | some name =>
    by_cases hname : name ∈ m.imports.names
    · have hi : m.imports.insertMany [name] = m.imports :=
        ImportTable.insertMany_of_mem fun _ hn => List.mem_singleton.1 hn ▸ hname
      exact .inl (congrArg (fun imports => { m with imports }) hi)
    · exact .inr ⟨name, hname, rfl⟩

/-- The class after names have been resolved one after the other, whatever became of each. -/
def afterResolving (m : ClassModel) (rs : List Mention) : ClassModel :=
  rs.foldl (fun m r => (resolve r.form r.name m).2) m

theorem afterResolving_eq (m : ClassModel) (rs : List Mention) :
    m.afterResolving rs = m.referAll (rs.filter Mention.isWellFormed) := by
  induction rs generalizing m with
  | nil => rfl
  | cons r rs ih =>
    have hstep : m.afterResolving (r :: rs) = (resolve r.form r.name m).2.afterResolving rs := rfl
    cases hr : r.isWellFormed with
    | true =>
      rw [hstep, ih, resolve_of_wellFormed hr, List.filter_cons_of_pos hr]
      exact (m.referAll_append [r] _).symm
    | false => rw [hstep, ih, resolve_of_malformed hr, List.filter_cons_of_neg (by simp [hr])]

theorem home_afterResolving (m : ClassModel) (rs : List Mention) :
    (m.afterResolving rs).home = m.home := by
  rw [afterResolving_eq]
  rfl

/-- What a reference requires is imported from then on. -/
theorem required_afterResolving (m : ClassModel) {r : Mention} {later : List Mention} :
    ∀ name, (TypeName.ofText r.name).Requires m.home r.form name →
      name ∈ ((m.referAll [r]).afterResolving later).imports.names := by
  intro name hname
  have hneeds : r.needs m.home = some name := TypeName.needs_spell_iff.2 hname
  rw [afterResolving_eq]
  refine ImportTable.mem_insertMany.2 (.inl (ImportTable.mem_insertMany.2 (.inr ?_)))
  exact List.mem_filterMap.2 ⟨r, List.mem_cons_self, hneeds⟩

/-- As long as what a reference requires is imported, the name is spelled as it was shortened,
unless it drops its parent. -/
theorem spell_of_required {m : ClassModel} {t : TypeName} (ht : t.IsProper) {form : TypeName.Form}
    (h : ∀ name, t.Requires m.home form name → name ∈ m.imports.names) :
    m.spell t =
      if form = .withParent ∧ m.DropsParent t then t.leaf else (t.spell m.home form).short := by
  cases form with
  | plain =>
    rw [if_neg (fun hd => nomatch hd.1), t.short_plain]
    exact spell_of_keepsLeaf (keepsLeaf_of_required h)
  | withParent =>
    by_cases hd : m.DropsParent t
    · rw [if_pos ⟨rfl, hd⟩]
      exact spell_of_keepsLeaf (keepsLeaf_of_dropsParent hd)
    · rw [if_neg fun hw => hd hw.2]
      exact (spell_eq_short_iff ht h).2 hd

theorem lookUp_afterResolving (m : ClassModel) {written : String}
    (h : TypeName.isWellFormed written = true) (form : TypeName.Form) (later : List Mention) :
    ((m.referAll [⟨form, written⟩]).afterResolving later).lookUp written =
      .ok (if form = .withParent ∧
          ((m.referAll [⟨form, written⟩]).afterResolving later).DropsParent (TypeName.ofText written)
        then (TypeName.ofText written).leaf else Mention.short m.home ⟨form, written⟩) := by
  have hhome : ((m.referAll [⟨form, written⟩]).afterResolving later).home = m.home :=
    home_afterResolving _ later
  rw [lookUp_of_wellFormed _ h, spelled, spell_of_required (TypeName.ofText_proper h), hhome]
  · rfl
  · rw [hhome]
    exact m.required_afterResolving (r := ⟨form, written⟩)

end ClassModel

/-- A text that is no type name is neither resolved nor looked up, and adds nothing to the class.
Any other is shortened, whatever is imported, and adds one import at most. From then on, whatever
else is resolved, it is looked up as it was shortened, except that a name of another namespace is
looked up without its parent while it is imported itself. -/
theorem lookUp_after_resolve (m : ClassModel) (form : TypeName.Form) (written : String) :
    (¬IsDotted (TypeName.stripped written) →
      resolve form written m = (.error (.malformedTypeName written), m) ∧
        m.lookUp written = .error (.malformedTypeName written)) ∧
    (IsDotted (TypeName.stripped written) →
      ∃ t short m', TypeName.parse written = .ok t ∧ t.full = TypeName.stripped written ∧
        resolve form written m = (.ok short, m') ∧
        (m' = m ∨ ∃ name ∉ m.imports.names, m' = m.addImport name) ∧
        (∀ imports, (resolve form written { m with imports }).1 = .ok short) ∧
        ∀ later : List Mention,
          (m'.afterResolving later).lookUp written =
            .ok (if form = .withParent ∧ 2 ≤ t.segments.length ∧ t.space ≠ m.home ∧
                t.full ∈ (m'.afterResolving later).imports.names then t.leaf else short)) := by
  rw [← TypeName.isWellFormed_iff, Bool.not_eq_true]
  constructor
  · intro h
    exact ⟨resolve_of_malformed h form m, m.lookUp_of_malformed h⟩
  · intro h
    refine ⟨_, _, _, TypeName.parse_of_wellFormed h, TypeName.full_ofText written,
      resolve_of_wellFormed h form m, m.referAll_singleton _, fun imports => ?_, fun later => ?_⟩
    · rw [resolve_of_wellFormed h]
    · have hlook := m.lookUp_afterResolving h form later
      simp only [ClassModel.DropsParent, ClassModel.home_afterResolving,
        ← TypeName.two_le_length_segments_iff] at hlook
      exact hlook

def userClient : ClassModel where
  name := "UserClient"
  home := "app.client"

theorem relativeUser_looked_up :
    IsDotted (TypeName.stripped "..app.types.User") ∧
    ∃ m', resolve .withParent "..app.types.User" userClient = (.ok "types.User", m') ∧
      m'.imports.names = ["app.types"] ∧
      m'.lookUp "..app.types.User" = .ok "types.User" ∧
      (m'.afterResolving [⟨.plain, "app..User"⟩, ⟨.plain, "app.types.User"⟩]).lookUp
        "..app.types.User" = .ok "User" := by
  have hdotted : IsDotted (TypeName.stripped "..app.types.User") :=
    TypeName.isWellFormed_iff.1 (by decide)
  have hrun : resolve .withParent "..app.types.User" userClient =
      (.ok "types.User", userClient.addImport "app.types") :=
    rfl
  have ht : TypeName.parse "..app.types.User" = .ok ⟨["app", "types"], "User"⟩ := by decide
  obtain ⟨t, short, m', hparse, -, hresolve, -, -, hlook⟩ :=
    (lookUp_after_resolve userClient .withParent "..app.types.User").2 hdotted
  cases ht.symm.trans hparse
  cases hrun.symm.trans hresolve
  refine ⟨hdotted, _, hrun, by decide, ?_, ?_⟩
  · exact (hlook []).trans (by decide)
  · exact (hlook [⟨.plain, "app..User"⟩, ⟨.plain, "app.types.User"⟩]).trans (by decide)

end ClientGen
