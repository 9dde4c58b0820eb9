import ClientGen.Proofs.Literal
import ClientGen.Proofs.Tidy

namespace ClientGen

namespace Text

/-- Reads a literal that stands on one line, and gives the rest as well. Three marks in a row open a
text of several lines, and no such literal. -/
def readLineLiteral (cs : List Char) : Option (List Char × List Char) :=
  match cs with
  | a :: b :: c :: _ => if a = b ∧ b = c then none else readLiteral cs
  | _ => readLiteral cs

theorem readLineLiteral_of_ne {a b : Char} (h : a ≠ b) (cs : List Char) :
    readLineLiteral (a :: b :: cs) = readLiteral (a :: b :: cs) := by
  cases cs with
  | nil => rfl
  | cons c cs => exact if_neg fun he => h he.1

theorem codePointEscape_eq_cons (n : Nat) : ∃ cs, codePointEscape n = '\\' :: cs := by
  rw [codePointEscape]
  split
  · exact ⟨_, rfl⟩
  · split <;> exact ⟨_, rfl⟩

/-- What is written for a character does not begin with the mark. -/
theorem quoteChar_eq_cons {mark : Char} (hm : mark ≠ '\\') (c : Char) :
    ∃ d ds, quoteChar mark c = d :: ds ∧ mark ≠ d := by
  rw [quoteChar]
  split
  · exact ⟨_, _, rfl, hm⟩
  · next hc =>
    split
    · exact ⟨_, _, rfl, hm⟩
    split
    · exact ⟨_, _, rfl, hm⟩
    split
    · exact ⟨_, _, rfl, hm⟩
    split
    · refine ⟨_, _, rfl, fun he => hc ?_⟩
      rw [he, beq_self_eq_true, Bool.true_or]
    · obtain ⟨cs, hcs⟩ := codePointEscape_eq_cons c.toNat
      exact ⟨_, _, hcs, hm⟩

theorem quoteMark_ne_backslash (cs : List Char) : quoteMark cs ≠ '\\' := by
  rcases quoteMark_eq_or cs with h | h
  · rw [h]
    decide
  · rw [h]
    decide

/-- A quoted text that is not empty is a literal on one line, whatever follows. -/
theorem readLineLiteral_quoteChars {cs : List Char} (hne : cs ≠ []) (rest : List Char) :
    readLineLiteral (quoteChars cs ++ rest) = some (cs, rest) := by
  obtain ⟨c, tail, rfl⟩ := List.exists_cons_of_ne_nil hne
  obtain ⟨d, ds, hd, hmark⟩ := quoteChar_eq_cons (quoteMark_ne_backslash (c :: tail)) c
  have hread := readLiteral_quoteChars (c :: tail) rest
  rw [quoteChars, List.flatMap_cons, hd] at hread ⊢
  exact (readLineLiteral_of_ne hmark _).trans hread

end Text

namespace Assembly

theorem faultless_of_assemble {p : Profile} {op : Operation} {m m' : ClassModel}
    (h : assemble p op m = (.ok (), m')) : fault? p op = none ∧ m' = installed p op m := by
  rw [assemble_run] at h
  cases hf : fault? p op with
  | some f =>
    rw [hf] at h
    cases h
  | none =>
    rw [hf] at h
    cases h
    exact ⟨rfl, rfl⟩

theorem find?_installed (p : Profile) (op : Operation) (m : ClassModel) :
    (installed p op m).members.find? (nameOf p op) = some (memberOf m.home p op) := by
  rw [Members.find?_eq_some_iff, installed_toList]
  exact ⟨List.mem_append_right _ List.mem_cons_self, rfl⟩

theorem linesOf_body {p : Profile} {op : Operation} (h : fault? p op = none) :
    Text.linesOf (body p op) = [body p op] := by
  refine Text.linesOf_of_isLine ?_ (isLine_body h)
  obtain ⟨cs, c, hc, -⟩ := body_endsVisibly p op
  intro he
  rw [he] at hc
  exact absurd hc.symm (by simp)

/-- The body hands on the argument that is declared, if there is one. -/
theorem body_cases (p : Profile) (op : Operation) :
    (op.parameters = [] ∧ argumentList p op = [] ∧
      body p op = "return self." ++ p.transportMethod ++ "(" ++ Text.quoted op.wireName ++ ")") ∨
    (op.parameters ≠ [] ∧ ∃ a, argumentList p op = [a] ∧
      body p op = "return self." ++ p.transportMethod ++ "(" ++ Text.quoted op.wireName ++ ", "
        ++ a.name ++ ")") := by
  rw [argumentList, body, argumentName?]
  rcases op.parameters with _ | ⟨x, _ | ⟨y, ys⟩⟩
  · exact .inl ⟨rfl, rfl, rfl⟩
  · exact .inr ⟨List.cons_ne_nil _ _, _, rfl, rfl⟩
  · exact .inr ⟨List.cons_ne_nil _ _, _, rfl, rfl⟩

end Assembly

open Assembly

/-- The member for an operation is one line, a call of the transport method. The call hands on a
literal that is read as the wire name, up to its closing mark and whatever follows, and the one
argument that the member declares if the operation has parameters. -/
theorem assembled_calls {p : Profile} {op : Operation} {m m' : ClassModel}
    (h : assemble p op m = (.ok (), m')) :
    ∃ member literal, m'.members.find? (nameOf p op) = some member ∧
      Text.linesOf member.body = [member.body] ∧
      (∀ rest, Text.readLineLiteral (literal.toList ++ rest) = some (op.wireName.toList, rest)) ∧
      ((op.parameters = [] ∧ member.arguments = [] ∧
        member.body = "return self." ++ p.transportMethod ++ "(" ++ literal ++ ")") ∨
      (op.parameters ≠ [] ∧ ∃ a, member.arguments = [a] ∧
        member.body = "return self." ++ p.transportMethod ++ "(" ++ literal ++ ", " ++ a.name
          ++ ")")) := by
  obtain ⟨hf, rfl⟩ := faultless_of_assemble h
  refine ⟨_, Text.quoted op.wireName, find?_installed p op m, linesOf_body hf, ?_, body_cases p op⟩
  intro rest
  have hne : op.wireName.toList ≠ [] := fun he => op.wireName_ne (String.toList_eq_nil_iff.1 he)
  rw [Text.quoted, String.toList_ofList]
  exact Text.readLineLiteral_quoteChars hne rest

def unspeakable : Operation :=
  ⟨{ wireName := String.ofList
      ['\'', '"', '\\', '\n', '\x01', '\x85', '\u2028', '\ue000', Char.ofNat 0x10ffff]
     parameters := [{ name := "value", type := "int" }] }, by decide⟩

theorem unspeakable_called :
    ∃ m' member literal, assemble .standard unspeakable { name := "OddClient" } = (.ok (), m') ∧
      m'.members.find? (nameOf .standard unspeakable) = some member ∧
      Text.linesOf member.body = [member.body] ∧
      Text.readLineLiteral literal.toList = some (unspeakable.wireName.toList, []) ∧
      member.body = "return self." ++ "call" ++ "(" ++ literal ++ ", " ++ "value" ++ ")" := by
  have hf : fault? .standard unspeakable = none := by decide
  have hrun := assemble_of_faultless hf { name := "OddClient" }
  obtain ⟨member, literal, hfind, hlines, hread, hbody⟩ := assembled_calls hrun
  have hmember := (find?_installed .standard unspeakable { name := "OddClient" }).symm.trans hfind
  have harguments : [⟨"value", "int"⟩] = member.arguments :=
    congrArg Member.arguments (Option.some.inj hmember)
  have hliteral := hread []
  rw [List.append_nil] at hliteral
  refine ⟨_, member, literal, hrun, hfind, hlines, hliteral, ?_⟩
  rcases hbody with ⟨hnone, -⟩ | ⟨-, a, ha, hbody⟩
  · cases hnone
  · cases harguments.trans ha
    exact hbody

end ClientGen
