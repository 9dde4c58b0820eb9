import ClientGen.Proofs.Generation
import ClientGen.Proofs.Literal

namespace ClientGen

/-- The name that a member hands to a method of its class, as the first argument of the call. -/
def Member.passedName? (method : String) (member : Member) : Option String :=
  match member.body.toList.dropPrefix? ("return self." ++ method ++ "(").toList with
  | none => none
  | some arguments =>
    match Text.readLiteral arguments with
    | none => none
    | some (name, rest) =>
      if rest.head? = some ')' ∨ rest.head? = some ',' then some (String.ofList name) else none

theorem Member.passedName?_of_body {method wireName : String} {member : Member} (last : Char)
    (rest : List Char) (hl : last = ')' ∨ last = ',')
    (hb : member.body.toList =
      ("return self." ++ method ++ "(").toList ++ (Text.quoteChars wireName.toList ++ last :: rest)) :
    member.passedName? method = some wireName := by
  have hcall := List.dropPrefix?_eq_some_iff.2 ⟨_, hb, beq_self_eq_true _⟩
  have hend : (last :: rest).head? = some ')' ∨ (last :: rest).head? = some ',' :=
    hl.imp (congrArg some) (congrArg some)
  rw [passedName?, hcall]
  simp only [Text.readLiteral_quoteChars]
  rw [if_pos hend, String.ofList_toList]

namespace Assembly

theorem passedName?_memberOf (home : String) (p : Profile) (op : Operation) :
    (memberOf home p op).passedName? p.transportMethod = some op.wireName := by
  have hbody : (memberOf home p op).body = body p op := rfl
  cases ha : argumentName? p op with
  | none =>
    apply Member.passedName?_of_body ')' [] (.inl rfl)
    rw [hbody, body, ha]
    simp [Text.quoted]
  | some name =>
    apply Member.passedName?_of_body ',' (' ' :: (name.toList ++ [')'])) (.inr rfl)
    rw [hbody, body, ha]
    simp [Text.quoted]

theorem not_mem_lastNamed {p : Profile} {op : Operation} {before after : List Operation}
    (hn : op ∉ after) (h : ∃ o ∈ after, nameOf p o = nameOf p op) :
    op ∉ lastNamed p (before ++ op :: after) := by
  have hname : nameOf p op ∈ after.map (nameOf p) := List.mem_map.2 h
  induction before with
  | nil =>
    rw [List.nil_append, lastNamed, if_pos hname]
    exact fun hm => hn ((lastNamed_sublist p after).subset hm)
  | cons o before ih =>
    rw [List.cons_append, lastNamed]
    split
    · exact ih
    · next ho =>
      refine fun hm => (List.mem_cons.1 hm).elim ?_ ih
      rintro rfl
      exact ho (List.mem_map_of_mem (List.mem_append_right before List.mem_cons_self))

end Assembly

open Assembly

theorem length_of_generate {p : Profile} {s : Service} {g : Generated}
    (h : generate p s = .ok g) :
    g.model.members.toList.length = (s.operations.map (nameOf p)).dedup.length := by
  rw [← names_of_generate h, List.length_map]

theorem length_eq_iff_of_generate {p : Profile} {s : Service} {g : Generated}
    (h : generate p s = .ok g) :
    g.model.members.toList.length = s.operations.length ↔
      (s.operations.map (nameOf p)).Nodup := by
  rw [length_of_generate h, ← List.length_map (nameOf p), (List.dedup_sublist _).length_eq,
    List.dedup_eq_self]

theorem exists_passing_iff {p : Profile} {s : Service} {g : Generated}
    (h : generate p s = .ok g) (hd : (s.operations.map fun op => op.wireName).Nodup)
    {op : Operation} (hop : op ∈ s.operations) (member : Member) :
    member ∈ g.model.members.toList ∧ member.passedName? p.transportMethod = some op.wireName ↔
      op ∈ lastNamed p s.operations ∧ member = memberOf s.home p op := by
  rw [members_of_generate h, List.mem_map]
  constructor
  · rintro ⟨⟨o, ho, rfl⟩, hpass⟩
    rw [passedName?_memberOf, Option.some.injEq] at hpass
    cases List.inj_on_of_nodup_map hd ((lastNamed_sublist p _).subset ho) hop hpass
    exact ⟨ho, rfl⟩
  · rintro ⟨ho, rfl⟩
    exact ⟨⟨op, ho, rfl⟩, passedName?_memberOf s.home p op⟩

/-- A generated client has as many members as its operations have member names. Of operations with
different wire names, one that no later operation of its member name follows has its wire name
handed to the transport method by one member, and any other by none. -/
theorem passed_by_one_iff_last {p : Profile} {s : Service} {g : Generated}
    (h : generate p s = .ok g) (hd : (s.operations.map fun op => op.wireName).Nodup) :
    g.model.members.toList.length = (s.operations.map (nameOf p)).dedup.length ∧
    (g.model.members.toList.length = s.operations.length ↔
      (s.operations.map (nameOf p)).Nodup) ∧
    ∀ before op after, s.operations = before ++ op :: after →
      ((∀ o ∈ after, nameOf p o ≠ nameOf p op) →
        ∃! member, member ∈ g.model.members.toList ∧
          member.passedName? p.transportMethod = some op.wireName) ∧
      ((∃ o ∈ after, nameOf p o = nameOf p op) →
        ∀ member ∈ g.model.members.toList,
          member.passedName? p.transportMethod ≠ some op.wireName) := by
  refine ⟨length_of_generate h, length_eq_iff_of_generate h, ?_⟩
  intro before op after ho
  have hop : op ∈ s.operations := ho ▸ List.mem_append_right before List.mem_cons_self
  have hpassing := exists_passing_iff h hd hop
  constructor
  · intro hlast
    have hmem : op ∈ lastNamed p s.operations := ho ▸ mem_lastNamed hlast
    refine ⟨memberOf s.home p op, (hpassing _).2 ⟨hmem, rfl⟩, fun member hm => ?_⟩
    exact ((hpassing member).1 hm).2
  · intro hlater member hm hpass
    have hn : op ∉ after := by
      have hops : s.operations.Nodup := hd.of_map
      rw [ho] at hops
      exact (List.nodup_cons.1 hops.of_append_right).1
    exact not_mem_lastNamed hn hlater (ho ▸ ((hpassing member).1 ⟨hm, hpass⟩).1)

theorem twiceNamed_passes_last :
    (twiceNamed.operations.map fun op => op.wireName).Nodup ∧
    ∃ g, generate .standard twiceNamed = .ok g ∧ g.model.members.toList.length = 2 ∧
      ∃! member, member ∈ g.model.members.toList ∧
        member.passedName? "call" = some "GetUser" := by
  have hd : (twiceNamed.operations.map fun op => op.wireName).Nodup := by decide
  have hg := generate_of_faultless (p := .standard) (s := twiceNamed) (by decide)
  obtain ⟨hlength, -, hpassed⟩ := passed_by_one_iff_last hg hd
  exact ⟨hd, _, hg, hlength.trans (by decide), (hpassed [_, _] _ [] rfl).1 (by decide)⟩

theorem twiceNamed_loses_first :
    (twiceNamed.operations.map fun op => op.wireName).Nodup ∧ twiceNamed.operations.length = 3 ∧
    ∃ g, generate .standard twiceNamed = .ok g ∧ g.model.members.toList.length = 2 ∧
      ∀ member ∈ g.model.members.toList, member.passedName? "call" ≠ some "get-user" := by
  refine ⟨by decide, rfl, _, generate_of_faultless (by decide), ?_⟩
  decide +kernel

end ClientGen
