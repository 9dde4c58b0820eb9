import ClientGen.Proofs.Imports

namespace ClientGen

theorem Members.find?_of_perm {ms ms' : Members} (h : ms.toList.Perm ms'.toList) (name : String) :
    ms.find? name = ms'.find? name := by
  apply Option.ext
  intro member
  rw [find?_eq_some_iff, find?_eq_some_iff, h.mem_iff]

theorem ClassModel.lookUp_congr {m m' : ClassModel} (hh : m.home = m'.home)
    (hi : m.imports = m'.imports) : m.lookUp = m'.lookUp := by
  funext written
  have hs : m.spell = m'.spell := by
    funext t
    rw [spell, spell, hh, hi]
  rw [lookUp, lookUp, hs]

namespace Source

theorem memberLines_congr {m m' : ClassModel} (h : m.lookUp = m'.lookUp) (member : Member) :
    memberLines m member = memberLines m' member := by
  have ha : argument m = argument m' := by
    funext a
    rw [argument, argument, h]
  rw [memberLines, memberLines, ha, h]

theorem classLine_congr {m m' : ClassModel} (h : m.lookUp = m'.lookUp) (hn : m.name = m'.name)
    (hb : m.base = m'.base) : classLine m = classLine m' := by
  rw [classLine, classLine, hb, hn, h]

end Source

open Assembly

section Permuted
variable {p : Profile} {s s' : Service} {g g' : Generated}

theorem imports_of_perm (hh : s.home = s'.home) (hp : s.operations.Perm s'.operations)
    (h : generate p s = .ok g) (h' : generate p s' = .ok g') :
    g.model.imports = g'.model.imports := by
  apply ImportTable.eq_of_mem_iff
  intro name
  rw [mem_imports_of_generate h, mem_imports_of_generate h', hh]
  simp only [hp.mem_iff]

theorem base_of_perm (hp : s.operations.Perm s'.operations) (h : generate p s = .ok g)
    (h' : generate p s' = .ok g') : g.model.base = g'.model.base := by
  have hnil : s.operations = [] ↔ s'.operations = [] := by
    rw [← List.length_eq_zero_iff, hp.length_eq, List.length_eq_zero_iff]
  rw [base_of_generate h, base_of_generate h']
  simp only [hnil]

theorem members_of_perm (hh : s.home = s'.home) (hp : s.operations.Perm s'.operations)
    (hd : (s.operations.map (nameOf p)).Nodup) (h : generate p s = .ok g)
    (h' : generate p s' = .ok g') : g.model.members.toList.Perm g'.model.members.toList := by
  have hd' : (s'.operations.map (nameOf p)).Nodup := (hp.map (nameOf p)).nodup_iff.1 hd
  rw [members_of_generate h, members_of_generate h', lastNamed_of_nodup hd,
    lastNamed_of_nodup hd', hh]
  exact hp.map _

end Permuted

/-- Services that differ in the order of their operations, which have different member names, are
both generated or both not; and if they are, the imports and the class line are the same, and so are
the members and the lines of each of them. -/
theorem generate_perm {p : Profile} {s s' : Service} (hname : s.className = s'.className)
    (hhome : s.home = s'.home) (hperm : s.operations.Perm s'.operations)
    (hd : (s.operations.map (nameOf p)).Nodup) :
    ((∃ g, generate p s = .ok g) ↔ ∃ g', generate p s' = .ok g') ∧
    ∀ g g', generate p s = .ok g → generate p s' = .ok g' →
      Source.importLines g.model.imports = Source.importLines g'.model.imports ∧
      (∃ line, Source.classLine g.model = .ok line ∧ Source.classLine g'.model = .ok line) ∧
      g.model.members.toList.Perm g'.model.members.toList ∧
      (∀ name, g.model.members.find? name = g'.model.members.find? name) ∧
      ∀ member ∈ g.model.members.toList, ∃ lines,
        Source.memberLines g.model member = .ok lines ∧
          Source.memberLines g'.model member = .ok lines := by
  constructor
  · rw [exists_generate_iff, exists_generate_iff]
    simp only [hperm.mem_iff]
  · intro g g' h h'
    obtain ⟨hn, hh⟩ := place_of_generate h
    obtain ⟨hn', hh'⟩ := place_of_generate h'
    have he := emittable_of_generate h
    have himports := imports_of_perm hhome hperm h h'
    have hmembers := members_of_perm hhome hperm hd h h'
    have hlook : g.model.lookUp = g'.model.lookUp :=
      ClassModel.lookUp_congr (by rw [hh, hh', hhome]) himports
    have hclass : Source.classLine g.model = Source.classLine g'.model :=
      Source.classLine_congr hlook (by rw [hn, hn', hname]) (base_of_perm hperm h h')
    refine ⟨congrArg _ himports, ?_, hmembers, Members.find?_of_perm hmembers, ?_⟩
    · have hline := Source.classLine_of_emittable he
      exact ⟨_, hline, hclass.symm.trans hline⟩
    · intro member hmem
      have hlines := Source.memberLines_of_emittable g.model (he.members member hmem)
      exact ⟨_, hlines, (Source.memberLines_congr hlook member).symm.trans hlines⟩

def variouslyOrdered : Service :=
  { variouslyTyped with operations := variouslyTyped.operations.reverse }

theorem variouslyOrdered_alike :
    variouslyTyped.operations ≠ variouslyOrdered.operations ∧
    ∃ g g', generate .standard variouslyTyped = .ok g ∧
      generate .standard variouslyOrdered = .ok g' ∧
      Source.importLines g.model.imports = Source.importLines g'.model.imports ∧
      g.model.members.toList ≠ g'.model.members.toList ∧
      g.model.members.find? "getUser" = g'.model.members.find? "getUser" := by
  have hname : variouslyTyped.className = variouslyOrdered.className := rfl
  have hhome : variouslyTyped.home = variouslyOrdered.home := rfl
  have hperm : variouslyTyped.operations.Perm variouslyOrdered.operations :=
    (List.reverse_perm _).symm
  have hfaultless : failure? .standard variouslyOrdered.operations = none :=
    failure?_eq_none_iff.2 fun op hop =>
      failure?_eq_none_iff.1 variouslyTyped_faultless op (hperm.mem_iff.2 hop)
  have hg := generate_of_faultless variouslyTyped_faultless
  have hg' := generate_of_faultless hfaultless
  obtain ⟨-, halike⟩ := generate_perm (p := .standard) hname hhome hperm (by decide)
  obtain ⟨hlines, -, -, hfind, -⟩ := halike _ _ hg hg'
  refine ⟨by decide, _, _, hg, hg', hlines, ?_, hfind "getUser"⟩
  intro he
  have hnames := congrArg (List.map Member.name) he
  rw [names_of_generate hg, names_of_generate hg'] at hnames
  revert hnames
  decide

end ClientGen
