import ClientGen.Proofs.Assembly
import ClientGen.Session

namespace ClientGen

theorem assemble_keepsPlace (p : Profile) (op : Operation) : (assemble p op).KeepsPlace :=
  (Assembly.install_keepsPlace p op).transaction.mapError _

theorem dispatchFrom_keepsPlace (ctx : Context) (assemblers : List Assembler) (index : Nat) :
    (dispatchFrom index ctx assemblers).KeepsPlace := by
  induction assemblers generalizing index with
  | nil => exact .ofExcept (.error _)
  | cons a rest ih =>
    unfold dispatchFrom
    split
    · split
      · exact .bind (assemble_keepsPlace _ _) fun _ => .pure _
      · exact .ofExcept (.error _)
      · exact .bind (.read _) fun _ => .pure _
    · exact ih _

namespace Session

/-- The class of the second session has the name and the namespace that it has in the first. -/
def SamePlace (s t : Session) : Prop :=
  t.model.name = s.model.name ∧ t.model.home = s.model.home

theorem SamePlace.refl (s : Session) : s.SamePlace s :=
  ⟨rfl, rfl⟩

theorem SamePlace.trans {s t u : Session} (h : s.SamePlace t) (h' : t.SamePlace u) :
    s.SamePlace u :=
  ⟨h'.1.trans h.1, h'.2.trans h.2⟩

theorem edit_model {ε α : Type} (s : Session) (act : Edit ε α) (failure : ε → SessionError)
    (answer : α → Answer) : (s.edit act failure answer).2.model = (act s.model).2 := by
  rw [edit]
  split <;> (next hr => rw [hr])

theorem edit_samePlace {ε α : Type} {act : Edit ε α} (h : act.KeepsPlace) (s : Session)
    (failure : ε → SessionError) (answer : α → Answer) :
    s.SamePlace (s.edit act failure answer).2 := by
  rw [SamePlace]
  rw [edit_model]
  exact h s.model

theorem withOperation_samePlace {s : Session} {draft : OperationDraft}
    {run : Operation → Outcome} (h : ∀ op, s.SamePlace (run op).2) :
    s.SamePlace (s.withOperation draft run).2 := by
  rw [withOperation]
  split
  · exact h _
  · exact .refl s

theorem withOperation_model_congr {s t : Session} (hm : t.model = s.model)
    {draft : OperationDraft} {run run' : Operation → Outcome}
    (h : ∀ op, (run' op).2.model = (run op).2.model) :
    (t.withOperation draft run').2.model = (s.withOperation draft run).2.model := by
  unfold withOperation
  split
  · exact h _
  · exact hm

theorem withMember_session (s : Session) (name : String)
    (answer : Member → Except SessionError Answer) : (s.withMember name answer).2 = s := by
  rw [withMember]
  split <;> rfl

theorem document_samePlace (s : Session) (p : Profile) (op : Operation) (shape : DocShape) :
    s.SamePlace (s.document p op shape).2 := by
  cases shape with
  | bare => exact edit_samePlace (Assembly.bareDocBlock_resolves _ _).keepsPlace _ _ _
  | single =>
    simp only [document]
    split
    · exact .refl s
    · exact edit_samePlace (Assembly.singleDocBlock_resolves _ _ _).keepsPlace _ _ _
  | packed => exact edit_samePlace (Assembly.packedDocBlock_resolves _ _ _).keepsPlace _ _ _

end Session

namespace Step

/-- Why a transaction ends in a failure, if it does: a step of it fails, or it is made to. -/
def failure? (p : Profile) (s : Session) (steps : List Step) (raised : Option String) :
    Option SessionError :=
  (runAll p s steps).2.1.or (raised.map .raised)

theorem run_transaction (p : Profile) (s : Session) (steps : List Step) (raised : Option String)
    (catches : Bool) :
    run p s (.transaction steps raised catches) =
      match failure? p s steps raised with
      | none => (.ok (.finished (runAll p s steps).1), (runAll p s steps).2.2)
      | some e =>
        (if catches then .ok (.caught (runAll p s steps).1 e) else .error e,
          { (runAll p s steps).2.2 with
            model := (runAll p s steps).2.2.model.restore s.model }) := by
  have ho : (runAll p s steps).2.1.orElse (fun _ => raised.map .raised) =
      failure? p s steps raised := by
    rw [failure?]
    cases (runAll p s steps).2.1 <;> rfl
  rw [run]
  simp only [ho]
  cases failure? p s steps raised with
  | none => rfl
  | some e => cases catches <;> rfl

theorem runAll_cons (p : Profile) (s : Session) (step : Step) (steps : List Step) :
    runAll p s (step :: steps) =
      match run p s step with
      | (.ok answer, s') => (answer :: (runAll p s' steps).1, (runAll p s' steps).2)
      | (.error e, s') => ([], some e, s') := by
  cases h : run p s step with
  | mk x s' => cases x <;> simp only [runAll, h]

mutual

theorem run_samePlace (p : Profile) (s : Session) (step : Step) :
    s.SamePlace (run p s step).2 := by
  cases step with
  | setBase | addImport | addMember | removeMember => exact ⟨rfl, rfl⟩
  | hasImport | hasMember | importCount | showImports | compareImports => exact ⟨rfl, rfl⟩
  | saveImports | savedImports | lookUp | canAssemble | render | importLines => exact ⟨rfl, rfl⟩
  | getMember | memberLines =>
    rw [run, Session.withMember_session]
    exact .refl s
  | resolve => exact Session.edit_samePlace (Edit.Resolves.resolve _ _).keepsPlace _ _ _
  | assemble =>
    exact Session.withOperation_samePlace fun op =>
      Session.edit_samePlace (assemble_keepsPlace p op) _ _ _
  | describe => exact Session.withOperation_samePlace fun op => .refl s
  | document shape =>
    exact Session.withOperation_samePlace fun op => Session.document_samePlace s p op shape
  | dispatch =>
    exact Session.withOperation_samePlace fun op =>
      Session.edit_samePlace (dispatchFrom_keepsPlace _ _ _) _ _ _
  | dispatchKind => exact Session.edit_samePlace (dispatchFrom_keepsPlace _ _ _) _ _ _
  | transaction steps raised catches =>
    have h := runAll_samePlace p s steps
    rw [run_transaction]
    cases failure? p s steps raised with
    | none => exact h
    | some e => exact h

theorem runAll_samePlace (p : Profile) (s : Session) (steps : List Step) :
    s.SamePlace (runAll p s steps).2.2 := by
  cases steps with
  | nil => exact .refl s
  | cons step steps =>
    have h := run_samePlace p s step
    rw [runAll_cons]
    cases hr : run p s step with
    | mk x s' =>
      rw [hr] at h
      cases x with
      | error e => exact h
      | ok answer => exact h.trans (runAll_samePlace p s' steps)

end

theorem restore_runAll (p : Profile) (s : Session) (steps : List Step) :
    (runAll p s steps).2.2.model.restore s.model = s.model :=
  Edit.restore_of_place (runAll_samePlace p s steps).1 (runAll_samePlace p s steps).2

def isTransaction : Step → Bool
  | .transaction _ _ _ => true
  | _ => false

mutual

/-- The steps whose edits are left when a step has run. Nothing is left of a transaction that has
failed, and of one that went through what is left of its steps. -/
def lasting (p : Profile) (s : Session) : Step → List Step
  | .transaction steps raised _ =>
    match failure? p s steps raised with
    | none => lastingAll p s steps
    | some _ => []
  | step => [step]

/-- The steps whose edits are left when steps have run up to the first failure. -/
def lastingAll (p : Profile) (s : Session) : List Step → List Step
  | [] => []
  | step :: steps =>
    lasting p s step ++
      match run p s step with
      | (.ok _, s') => lastingAll p s' steps
      | (.error _, _) => []

end

theorem lasting_of_plain (p : Profile) (s : Session) {step : Step}
    (h : step.isTransaction = false) : lasting p s step = [step] := by
  rw [lasting.eq_def]
  split
  · cases h
  · rfl

/-- What is kept aside in a session does not bear on the class. -/
theorem run_model_congr (p : Profile) {s t : Session} (hm : t.model = s.model) {step : Step}
    (h : step.isTransaction = false) : (run p t step).2.model = (run p s step).2.model := by
  cases step with
  | setBase | addImport | addMember | removeMember => simp only [run, Session.change, hm]
  | hasImport | hasMember | importCount | showImports | compareImports => exact hm
  | saveImports | savedImports | lookUp | canAssemble | render | importLines => exact hm
  | getMember | memberLines =>
    rw [run, run, Session.withMember_session, Session.withMember_session]
    exact hm
  | resolve | dispatchKind => rw [run, run, Session.edit_model, Session.edit_model, hm]
  | assemble | dispatch =>
    exact Session.withOperation_model_congr hm fun op => by
      rw [Session.edit_model, Session.edit_model, hm]
  | describe => exact Session.withOperation_model_congr hm fun op => hm
  | document shape =>
    refine Session.withOperation_model_congr hm fun op => ?_
    cases shape with
    | bare | packed => simp only [Session.document, Session.edit_model, hm]
    | single =>
      cases hx : op.parameters <;> simp only [Session.document, hx, Session.edit_model, hm]
      exact hm
  | transaction => cases h

end Step

/-- The session behind steps, each of which is run whatever became of the ones before it. -/
def Session.after (p : Profile) (s : Session) (steps : List Step) : Session :=
  steps.foldl (fun s step => (step.run p s).2) s

theorem Session.after_append (p : Profile) (s : Session) (steps more : List Step) :
    s.after p (steps ++ more) = (s.after p steps).after p more :=
  List.foldl_append

namespace Step

mutual

theorem after_lasting (p : Profile) {s t : Session} (hm : t.model = s.model) (step : Step) :
    (t.after p (lasting p s step)).model = (run p s step).2.model := by
  cases h : step.isTransaction with
  | false =>
    rw [lasting_of_plain p s h]
    exact run_model_congr p hm h
  | true =>
    cases step with
    | transaction steps raised catches =>
      -- the transaction around the steps is gone, and they start on the same class
      rw [lasting, run_transaction]
      cases failure? p s steps raised with
      | none => exact after_lastingAll p hm steps
      | some e => exact hm.trans (restore_runAll p s steps).symm
    | _ => cases h

theorem after_lastingAll (p : Profile) {s t : Session} (hm : t.model = s.model)
    (steps : List Step) :
    (t.after p (lastingAll p s steps)).model = (runAll p s steps).2.2.model := by
  cases steps with
  | nil => exact hm
  | cons step steps =>
    have h := after_lasting p hm step
    rw [lastingAll, runAll_cons, Session.after_append]
    cases hr : run p s step with
    | mk x s' =>
      rw [hr] at h
      cases x with
      | error e => exact h
      | ok answer => exact after_lastingAll p h steps

end

mutual

theorem lasting_plain (p : Profile) (s : Session) (step : Step) :
    ∀ t ∈ lasting p s step, t.isTransaction = false := by
  cases h : step.isTransaction with
  | false =>
    intro t ht
    rw [lasting_of_plain p s h] at ht
    rw [List.mem_singleton.1 ht, h]
  | true =>
    cases step with
    | transaction steps raised catches =>
      rw [lasting]
      cases failure? p s steps raised with
      | none => exact lastingAll_plain p s steps
      | some e => exact fun t ht => nomatch ht
    | _ => cases h

theorem lastingAll_plain (p : Profile) (s : Session) (steps : List Step) :
    ∀ t ∈ lastingAll p s steps, t.isTransaction = false := by
  cases steps with
  | nil =>
    rw [lastingAll]
    exact fun t ht => nomatch ht
  | cons step steps =>
    intro t ht
    rw [lastingAll, List.mem_append] at ht
    rcases ht with ht | ht
    · exact lasting_plain p s step t ht
    · cases hr : run p s step with
      | mk x s' =>
        rw [hr] at ht
        cases x with
        | error e => cases ht
        | ok answer => exact lastingAll_plain p s' steps t ht

end

end Step

theorem assemble_of_install (p : Profile) (op : Operation) (m : ClassModel) :
    match Assembly.install p op m with
    | (.error f, _) => assemble p op m = (.error (.member op.wireName f), m)
    | (.ok _, m') => assemble p op m = (.ok (), m') := by
  cases h : Assembly.fault? p op with
  | some f =>
    obtain ⟨m', hm⟩ := Assembly.install_of_fault h m
    rw [hm]
    exact assemble_of_fault h m
  | none =>
    rw [Assembly.install_of_faultless h m]
    exact assemble_of_faultless h m

/-- Rollback is exact. A transaction that ends in a failure answers with the failure or passes it
on, and the class is what it was when it began; one that does not is its steps alone. Assembly is
the installation of a member in such a transaction. Hence what is left of a program is what the
steps give that no failed transaction holds, with no transaction around them. -/
theorem transactions_exact (p : Profile) :
    (∀ (s : Session) (steps : List Step) (raised : Option String) (catches : Bool),
      match Step.failure? p s steps raised with
      | some e =>
        (Step.run p s (.transaction steps raised catches)).1 =
            (if catches then .ok (.caught (Step.runAll p s steps).1 e) else .error e) ∧
          (Step.run p s (.transaction steps raised catches)).2.model = s.model
      | none =>
        Step.run p s (.transaction steps raised catches) =
          (.ok (.finished (Step.runAll p s steps).1), (Step.runAll p s steps).2.2)) ∧
    (∀ (op : Operation) (m : ClassModel),
      match Assembly.install p op m with
      | (.error f, _) => assemble p op m = (.error (.member op.wireName f), m)
      | (.ok _, m') => assemble p op m = (.ok (), m')) ∧
    ∀ (s : Session) (steps : List Step),
      (∀ t ∈ Step.lastingAll p s steps, t.isTransaction = false) ∧
        (Step.runAll p s steps).2.2.model = (s.after p (Step.lastingAll p s steps)).model := by
  refine ⟨?_, assemble_of_install p, fun s steps => ?_⟩
  · intro s steps raised catches
    rw [Step.run_transaction]
    cases Step.failure? p s steps raised with
    | none => rfl
    | some e => exact ⟨rfl, Step.restore_runAll p s steps⟩
  · exact ⟨Step.lastingAll_plain p s steps, (Step.after_lastingAll p rfl steps).symm⟩

end ClientGen
