import ClientGen.ClassModel.Basic

namespace ClientGen.Edit
variable {ε δ α β : Type}

theorem bind_run (act : Edit ε α) (next : α → Edit ε β) (m : ClassModel) :
    (act >>= next) m =
      match act m with
      | (.ok a, m') => next a m'
      | (.error e, m') => (.error e, m') := by
  change ExceptT.bind act next m = _
  simp only [ExceptT.bind, ExceptT.mk, ExceptT.bindCont, bind, StateT.bind]
  cases act m with
  | mk x m' => cases x <;> rfl

theorem bind_of_ok {act : Edit ε α} {next : α → Edit ε β} {m m' : ClassModel} {a : α}
    (h : act m = (.ok a, m')) : (act >>= next) m = next a m' := by
  rw [bind_run, h]

theorem bind_of_error {act : Edit ε α} {next : α → Edit ε β} {m m' : ClassModel} {e : ε}
    (h : act m = (.error e, m')) : (act >>= next) m = (.error e, m') := by
  rw [bind_run, h]

theorem update_bind (f : ClassModel → ClassModel) (next : Unit → Edit ε β) (m : ClassModel) :
    (update f >>= next) m = next () (f m) :=
  rfl

theorem ofExcept_bind_ok {x : Except ε α} {a : α} (h : x = .ok a) (next : α → Edit ε β)
    (m : ClassModel) : (ofExcept x >>= next) m = next a m := by
  rw [h]
  rfl

theorem ofExcept_bind_error {x : Except ε α} {e : ε} (h : x = .error e) (next : α → Edit ε β)
    (m : ClassModel) : (ofExcept x >>= next) m = (.error e, m) := by
  rw [h]
  rfl

theorem discard_eq (act : Edit ε α) : discard act = act >>= fun _ => pure () :=
  rfl

theorem discard_of_ok {act : Edit ε α} {m m' : ClassModel} {a : α} (h : act m = (.ok a, m')) :
    discard act m = (.ok (), m') :=
  bind_of_ok h

theorem discard_of_error {act : Edit ε α} {m m' : ClassModel} {e : ε}
    (h : act m = (.error e, m')) : discard act m = (.error e, m') :=
  bind_of_error h

/-- The program leaves the name of the class and its namespace alone, however it ends. -/
def KeepsPlace (act : Edit ε α) : Prop :=
  ∀ m, (act m).2.name = m.name ∧ (act m).2.home = m.home

theorem restore_of_place {m before : ClassModel} (hn : m.name = before.name)
    (hh : m.home = before.home) : m.restore before = before := by
  cases before
  cases hn
  cases hh
  rfl

theorem transaction_of_ok {act : Edit ε α} {m m' : ClassModel} {a : α}
    (h : act m = (.ok a, m')) : act.transaction m = (.ok a, m') := by
  simp only [transaction, h]

/-- A transaction that fails gives the class back whole: what it does not restore is never
edited. -/
theorem transaction_of_error {act : Edit ε α} (hk : act.KeepsPlace) {m m' : ClassModel} {e : ε}
    (h : act m = (.error e, m')) : act.transaction m = (.error e, m) := by
  have hp := hk m
  rw [h] at hp
  simp only [transaction, h, restore_of_place hp.1 hp.2]

theorem mapError_of_ok {act : Edit ε α} {f : ε → δ} {m m' : ClassModel} {a : α}
    (h : act m = (.ok a, m')) : act.mapError f m = (.ok a, m') := by
  simp only [mapError, h]

theorem mapError_of_error {act : Edit ε α} {f : ε → δ} {m m' : ClassModel} {e : ε}
    (h : act m = (.error e, m')) : act.mapError f m = (.error (f e), m') := by
  simp only [mapError, h]

theorem KeepsPlace.pure (a : α) : KeepsPlace (ε := ε) (pure a) :=
  fun _ => ⟨rfl, rfl⟩

theorem KeepsPlace.ofExcept (x : Except ε α) : KeepsPlace (ofExcept x) :=
  fun _ => ⟨rfl, rfl⟩

theorem KeepsPlace.read (f : ClassModel → α) : KeepsPlace (ε := ε) (read f) :=
  fun _ => ⟨rfl, rfl⟩

theorem KeepsPlace.update {f : ClassModel → ClassModel}
    (hf : ∀ m, (f m).name = m.name ∧ (f m).home = m.home) : KeepsPlace (ε := ε) (update f) :=
  hf

theorem KeepsPlace.bind {act : Edit ε α} {next : α → Edit ε β} (h : act.KeepsPlace)
    (hn : ∀ a, (next a).KeepsPlace) : (act >>= next).KeepsPlace := by
  intro m
  have hp := h m
  rw [bind_run]
  cases hr : act m with
  | mk x m' =>
    rw [hr] at hp
    cases x with
    | error e => exact hp
    | ok a => exact ⟨((hn a m').1).trans hp.1, ((hn a m').2).trans hp.2⟩

theorem KeepsPlace.discard {act : Edit ε α} (h : act.KeepsPlace) : (discard act).KeepsPlace := by
  rw [discard_eq]
  exact h.bind fun _ => .pure ()

theorem KeepsPlace.transaction {act : Edit ε α} (h : act.KeepsPlace) :
    act.transaction.KeepsPlace := by
  intro m
  cases hr : act m with
  | mk x m' =>
    cases x with
    | error e =>
      rw [transaction_of_error h hr]
      exact ⟨rfl, rfl⟩
    | ok a =>
      have hp := h m
      rw [hr] at hp
      rw [transaction_of_ok hr]
      exact hp

theorem KeepsPlace.mapError {act : Edit ε α} (f : ε → δ) (h : act.KeepsPlace) :
    (act.mapError f).KeepsPlace := by
  intro m
  have hp := h m
  cases hr : act m with
  | mk x m' =>
    rw [hr] at hp
    cases x with
    | error e => rw [mapError_of_error hr]; exact hp
    | ok a => rw [mapError_of_ok hr]; exact hp

end ClientGen.Edit
