import ClientGen.Proofs.Imports

namespace ClientGen

theorem Members.put_erase_again (ms : Members) (member : Member) :
    (((ms.erase member.name).put member).erase member.name).put member =
      (ms.erase member.name).put member := by
  apply eq_of_toList
  rw [toList_put_erase, toList_put_erase, List.filter_append, List.filter_filter]
  simp

namespace Assembly

theorem installed_again (p : Profile) (op : Operation) (m : ClassModel) :
    installed p op (installed p op m) = installed p op m := by
  have hmembers : (installed p op (installed p op m)).members = (installed p op m).members :=
    m.members.put_erase_again (memberOf m.home p op)
  have himports : (installed p op (installed p op m)).imports = (installed p op m).imports := by
    apply ImportTable.insertMany_of_mem
    intro name hname
    exact ImportTable.mem_insertMany.2 (.inr hname)
  calc installed p op (installed p op m)
      = { installed p op m with
          members := (installed p op (installed p op m)).members
          imports := (installed p op (installed p op m)).imports } := rfl
    _ = installed p op m := by rw [hmembers, himports]

end Assembly

open Assembly

/-- Assembling an operation twice ends as assembling it once, and leaves the same class: the one
there was if it cannot be assembled, and else one with a new member behind those of other names, in
the order they had. -/
theorem assemble_again (p : Profile) (op : Operation) (m : ClassModel) :
    assemble p op (assemble p op m).2 = assemble p op m ∧
    match assemble p op m with
    | (.error _, m') => m' = m
    | (.ok _, m') => ∃ member, member.name = nameOf p op ∧
        m'.members.toList = m.members.toList.filter (fun x => x.name != nameOf p op) ++ [member] := by
  cases h : fault? p op with
  | some f =>
    have hr := assemble_of_fault h m
    rw [hr]
    exact ⟨hr, rfl⟩
  | none =>
    rw [assemble_of_faultless h, assemble_of_faultless h, installed_again]
    exact ⟨rfl, _, rfl, installed_toList p op m⟩

end ClientGen
