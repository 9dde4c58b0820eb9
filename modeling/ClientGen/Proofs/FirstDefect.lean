import Mathlib.Logic.Basic

namespace ClientGen

/-- Where a defect stands, compared number by number: what is checked further on, or in a later item
of a list, stands at a greater place. -/
abbrev Place := List Nat

variable {ε α β : Type}

/-- Whether a fault is that of the defect at the least place. -/
def IsFirst (D : Place → ε → Prop) (fault : ε) : Prop :=
  ∃ place, D place fault ∧
    ∀ place' fault', D place' fault' → place < place' ∨ place' = place ∧ fault' = fault

/-- Whether a reading comes to its end if there is no defect, and tells the first one otherwise. -/
def Tells (x : Except ε α) (D : Place → ε → Prop) : Prop :=
  match x with
  | .ok _ => ∀ place fault, ¬D place fault
  | .error fault => IsFirst D fault

/-- The defects at places that start with a number or a greater one. -/
def DefectFrom (k : Nat) (D : Place → ε → Prop) (place : Place) (fault : ε) : Prop :=
  D place fault ∧ ∃ n rest, place = n :: rest ∧ k ≤ n

theorem bind_eq_ok_iff {x : Except ε α} {next : α → Except ε β} {b : β} :
    (x >>= next) = .ok b ↔ ∃ a, x = .ok a ∧ next a = .ok b := by
  cases x with
  | error fault =>
    constructor
    · intro h
      cases h
    · rintro ⟨a, ⟨⟩, -⟩
  | ok a =>
    constructor
    · intro h
      exact ⟨a, rfl, h⟩
    · rintro ⟨a, ⟨⟩, h⟩
      exact h

theorem mapError_eq_ok_iff {ε' : Type} {x : Except ε α} {f : ε → ε'} {a : α} :
    x.mapError f = .ok a ↔ x = .ok a := by
  cases x with
  | error fault =>
    constructor
    · rintro ⟨⟩
    · rintro ⟨⟩
  | ok a' =>
    constructor
    · rintro ⟨⟩
      rfl
    · rintro ⟨⟩
      rfl

theorem mapError_eq_error_iff {ε' : Type} {x : Except ε α} {f : ε → ε'} {e : ε'} :
    x.mapError f = .error e ↔ ∃ fault, x = .error fault ∧ e = f fault := by
  cases x with
  | error fault =>
    constructor
    · rintro ⟨⟩
      exact ⟨fault, rfl, rfl⟩
    · rintro ⟨fault', ⟨⟩, rfl⟩
      rfl
  | ok a =>
    constructor
    · rintro ⟨⟩
    · rintro ⟨fault, ⟨⟩, -⟩

theorem IsFirst.unique {D : Place → ε → Prop} {f g : ε} (hf : IsFirst D f) (hg : IsFirst D g) :
    f = g := by
  obtain ⟨p, hp, hpfirst⟩ := hf
  obtain ⟨q, hq, hqfirst⟩ := hg
  rcases hpfirst q g hq with hlt | ⟨-, he⟩
  · rcases hqfirst p f hp with hlt' | ⟨-, he⟩
    · exact absurd hlt' (List.lt_asymm hlt)
    · exact he
  · exact he.symm

theorem IsFirst.of_only {D : Place → ε → Prop} {place : Place} {fault : ε} (h : D place fault)
    (honly : ∀ place' fault', D place' fault' → place' = place ∧ fault' = fault) : IsFirst D fault :=
  ⟨place, h, fun place' fault' h' => .inr (honly place' fault' h')⟩

namespace Tells
variable {x : Except ε α} {D : Place → ε → Prop} {k : Nat}

theorem error_iff (h : Tells x D) {fault : ε} : x = .error fault ↔ IsFirst D fault := by
  cases x with
  | error f =>
    rw [Except.error.injEq]
    exact ⟨fun he => he ▸ h, fun hf => IsFirst.unique h hf⟩
  | ok a =>
    constructor
    · intro he
      cases he
    · rintro ⟨place, hd, -⟩
      exact absurd hd (h place fault)

theorem exists_error_iff (h : Tells x D) :
    (∃ fault, x = .error fault) ↔ ∃ place fault, D place fault := by
  cases x with
  | error f =>
    obtain ⟨place, hd, -⟩ := h
    exact ⟨fun _ => ⟨place, f, hd⟩, fun _ => ⟨f, rfl⟩⟩
  | ok a =>
    constructor
    · rintro ⟨f, ⟨⟩⟩
    · rintro ⟨place, fault, hd⟩
      exact absurd hd (h place fault)

theorem congr {D' : Place → ε → Prop} (h : Tells x D)
    (hD : ∀ place fault, D place fault ↔ D' place fault) : Tells x D' := by
  have he : D = D' := funext₂ fun place fault => propext (hD place fault)
  exact he ▸ h

theorem map (h : Tells x D) (f : α → β) : Tells (x >>= fun a => return f a) D := by
  cases x with
  | error fault => exact h
  | ok a => exact h

theorem of_check {P : α → Prop} {fault : ε} (hok : ∀ a, x = .ok a ↔ P a)
    (hfault : ∀ f, x = .error f → f = fault)
    (hD : ∀ place f, D place f ↔ (∀ a, ¬P a) ∧ place = [] ∧ f = fault) : Tells x D := by
  cases x with
  | error f =>
    have hnone : ∀ a, ¬P a := by
      intro a ha
      cases (hok a).2 ha
    refine .of_only ((hD [] f).2 ⟨hnone, rfl, hfault f rfl⟩) fun place f' h => ?_
    obtain ⟨-, hp, hf⟩ := (hD place f').1 h
    exact ⟨hp, hf.trans (hfault f rfl).symm⟩
  | ok a => exact fun place f h => ((hD place f).1 h).1 a ((hok a).1 rfl)

/-- What is checked first comes first. -/
theorem stage {next : α → Except ε β} (hx : Tells x fun place => D (k :: place))
    (hnext : ∀ a, x = .ok a → Tells (next a) (DefectFrom (k + 1) D)) :
    Tells (x >>= next) (DefectFrom k D) := by
  cases x with
  | error fault =>
    obtain ⟨place, hd, hfirst⟩ := hx
    refine ⟨k :: place, ⟨hd, k, place, rfl, Nat.le_refl k⟩, ?_⟩
    rintro place' fault' ⟨hd', n, rest, rfl, hn⟩
    rw [List.cons_lt_cons_iff]
    rcases Nat.eq_or_lt_of_le hn with rfl | hlt
    · rcases hfirst rest fault' hd' with hlt | ⟨rfl, rfl⟩
      · exact .inl (.inr ⟨rfl, hlt⟩)
      · exact .inr ⟨rfl, rfl⟩
    · exact .inl (.inl hlt)
  | ok a =>
    refine (hnext a rfl).congr fun place fault => ?_
    refine and_congr_right fun hd => exists₂_congr fun n rest => and_congr_right ?_
    rintro rfl
    refine ⟨Nat.le_of_succ_le, fun hn => Nat.lt_of_le_of_ne hn ?_⟩
    -- At the number of this stage there is no defect, as it came to its end.
    rintro rfl
    exact hx rest fault hd

theorem last (hx : Tells x fun place => D (k :: place))
    (hlast : ∀ n rest fault, D (n :: rest) fault → n ≤ k) : Tells x (DefectFrom k D) := by
  rw [← bind_pure x]
  refine hx.stage fun a _ place fault hd => ?_
  obtain ⟨hd, n, rest, rfl, hn⟩ := hd
  exact absurd (hlast n rest fault hd) (Nat.not_le_of_lt hn)

theorem of_from (k : Nat) (h : Tells x (DefectFrom k D))
    (hD : ∀ place fault, D place fault → ∃ n rest, place = n :: rest ∧ k ≤ n) : Tells x D :=
  h.congr fun place fault => ⟨And.left, fun hd => ⟨hd, hD place fault hd⟩⟩

end Tells

end ClientGen
