import ClientGen.Proofs.Generation
import ClientGen.Proofs.MemberName

namespace ClientGen
open Assembly

/-- The members of a generated client call the transport method, and none of them is named as it
exactly if no wire name shadows it. -/
theorem unshadowed_iff {p : Profile} {s : Service} {g : Generated} (h : generate p s = .ok g) :
    (∀ member ∈ g.model.members.toList, member.Calls p.transportMethod) ∧
    ((∀ member ∈ g.model.members.toList, member.name ≠ p.transportMethod) ↔
      ∀ op ∈ s.operations, ¬MemberName.Shadows p.methodCase p.transportMethod op.wireName) := by
  constructor
  · intro member hm
    rw [members_of_generate h] at hm
    obtain ⟨op, -, rfl⟩ := List.mem_map.1 hm
    exact memberOf_calls s.home p op
  · have hn : (∀ member ∈ g.model.members.toList, member.name ≠ p.transportMethod) ↔
        p.transportMethod ∉ s.operations.map (nameOf p) := by
      rw [← List.mem_dedup, ← names_of_generate h]
      constructor
      · intro hne hm
        obtain ⟨member, hmem, he⟩ := List.mem_map.1 hm
        exact hne member hmem he
      · intro hnot member hmem he
        exact hnot (he ▸ List.mem_map_of_mem hmem)
    rw [hn]
    constructor
    · intro hnot op hop hs
      exact hnot (List.mem_map.2 ⟨op, hop, MemberName.memberName_eq_reserved_iff.2 hs⟩)
    · intro hall hm
      obtain ⟨op, hop, he⟩ := List.mem_map.1 hm
      exact hall op hop (MemberName.memberName_eq_reserved_iff.1 he)

def keywordNamed : Operation :=
  ⟨{ wireName := "class" }, by decide⟩

def wordless : Operation :=
  ⟨{ wireName := "--" }, by decide⟩

def oddlyNamed : Service where
  className := "OddClient"
  operations := [⟨{ wireName := "call" }, by decide⟩, keywordNamed, wordless]
  className_ok := by decide

theorem oddlyNamed_unshadowed :
    ∃ g, generate .standard oddlyNamed = .ok g ∧
      g.model.members.toList.map Member.name = ["call_", "class_", "operation"] ∧
      ∀ member ∈ g.model.members.toList, member.name ≠ "call" := by
  have hg := generate_of_faultless (p := .standard) (s := oddlyNamed) (by decide)
  refine ⟨_, hg, (names_of_generate hg).trans (by decide), ?_⟩
  refine (unshadowed_iff hg).2.2 ?_
  decide

def Profile.calling (transportMethod : String) (h : isIdentifier transportMethod = true) :
    Profile :=
  { Profile.standard with transportMethod, transportMethod_ok := h }

/-- A wire name without words, or a keyword, becomes a member that calls itself. -/
theorem oddlyNamed_calls_itself :
    (∃ g, generate (.calling "operation" (by decide)) oddlyNamed = .ok g ∧
      ∃ member ∈ g.model.members.toList, member.name = "operation" ∧
        member.body = "return self.operation('--')") ∧
    ∃ g, generate (.calling "class_" (by decide)) oddlyNamed = .ok g ∧
      ∃ member ∈ g.model.members.toList, member.name = "class_" ∧
        member.body = "return self.class_('class')" := by
  constructor
  · have hg := generate_of_faultless (p := .calling "operation" (by decide)) (s := oddlyNamed)
      (by decide)
    refine ⟨_, hg, ?_⟩
    rw [members_of_generate hg]
    exact ⟨_, List.mem_map_of_mem (a := wordless) (by decide), by decide, by decide⟩
  · have hg := generate_of_faultless (p := .calling "class_" (by decide)) (s := oddlyNamed)
      (by decide)
    refine ⟨_, hg, ?_⟩
    rw [members_of_generate hg]
    exact ⟨_, List.mem_map_of_mem (a := keywordNamed) (by decide), by decide, by decide⟩

end ClientGen
