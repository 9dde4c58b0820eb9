import ClientGen.Document
import ClientGen.Proofs.FirstDefect
import ClientGen.Proofs.ProfileOptions

namespace ClientGen
namespace Document
variable {es : List (String × Datum)} {key : String} {fault f : DocumentFault} {place : Place}

/-- The value under a key, or the one that an absent key stands for. -/
def valueAt (es : List (String × Datum)) (key : String) (absent : Datum) : Datum :=
  (es.lookup key).getD absent

/-- The defects of the items of a list, each at the index of its item. -/
inductive ItemDefect (D : Nat → Datum → Place → DocumentFault → Prop) (items : List Datum) :
    Place → DocumentFault → Prop where
  | mk {i : Nat} {item : Datum} {place : Place} {fault : DocumentFault}
      (entry : items[i]? = some item) (defect : D i item place fault) :
    ItemDefect D items (i :: place) fault

/-- What can be wrong with an entry of the list of parameters. -/
inductive ParameterDefect (wireName : String) (position : Nat) :
    Datum → Place → DocumentFault → Prop where
  | notObject {item : Datum} (h : ∀ es, item ≠ .object es) :
    ParameterDefect wireName position item [0] (.parameterNotObject position wireName)
  | incomplete {es : List (String × Datum)} (h : ∀ name type,
      ¬(es.lookup "name" = some (.text name) ∧ es.lookup "type" = some (.text type))) :
    ParameterDefect wireName position (.object es) [1] (.incompleteParameter position wireName)

/-- What can be wrong with an entry of the list of operations. -/
inductive OperationDefect (index : Nat) : Datum → Place → DocumentFault → Prop where
  | notObject {item : Datum} (h : ∀ es, item ≠ .object es) :
    OperationDefect index item [0] (.methodNotObject index)
  | wireName {es : List (String × Datum)} (h : ∀ s, es.lookup "wire_name" ≠ some (.text s)) :
    OperationDefect index (.object es) [1] (.missingWireName index)
  | returnType {es : List (String × Datum)} {wireName : String}
      (named : es.lookup "wire_name" = some (.text wireName))
      (h : ∀ s, valueAt es "return_type" (.text "object") ≠ .text s) :
    OperationDefect index (.object es) [2] (.invalidReturnType wireName)
  | parametersNotList {es : List (String × Datum)} {wireName : String}
      (named : es.lookup "wire_name" = some (.text wireName))
      (h : ∀ items, valueAt es "parameters" (.list []) ≠ .list items) :
    OperationDefect index (.object es) [3] (.parametersNotList wireName)
  | parameter {es : List (String × Datum)} {wireName : String} {items : List Datum} {place : Place}
      {fault : DocumentFault} (named : es.lookup "wire_name" = some (.text wireName))
      (list : valueAt es "parameters" (.list []) = .list items)
      (defect : ItemDefect (ParameterDefect wireName) items place fault) :
    OperationDefect index (.object es) (4 :: place) fault
  | emptyWireName {es : List (String × Datum)} (named : es.lookup "wire_name" = some (.text "")) :
    OperationDefect index (.object es) [5] .emptyWireName

/-- What can be wrong with a service. -/
inductive ServiceDefect (es : List (String × Datum)) : Place → DocumentFault → Prop where
  | className (h : ∀ s, es.lookup "class_name" = some (.text s) → s = "") :
    ServiceDefect es [0] .missingClassName
  | namespaceNotText (h : ∀ s, valueAt es "namespace" (.text "") ≠ .text s) :
    ServiceDefect es [1] .namespaceNotText
  | methodsNotList (h : ∀ items, valueAt es "methods" (.list []) ≠ .list items) :
    ServiceDefect es [2] .methodsNotList
  | operation {items : List Datum} {place : Place} {fault : DocumentFault}
      (list : valueAt es "methods" (.list []) = .list items)
      (defect : ItemDefect OperationDefect items place fault) : ServiceDefect es (3 :: place) fault
  | invalidClassName {s : String} (named : es.lookup "class_name" = some (.text s))
      (h : isIdentifier s = false) : ServiceDefect es [4] (.invalidClassName s)

/-- What can be wrong with a document. -/
inductive Defect (es : List (String × Datum)) : Place → DocumentFault → Prop where
  | profileNotObject (h : ∀ options, valueAt es "profile" (.object []) ≠ .object options) :
    Defect es [0] .profileNotObject
  | service {place : Place} {fault : DocumentFault} (defect : ServiceDefect es place fault) :
    Defect es (1 :: place) fault
  | profile {options : List (String × Datum)} {fault : ProfileFault}
      (object : valueAt es "profile" (.object []) = .object options)
      (h : OptionsTell options fault) : Defect es [2] (.profile fault)

/-- Whether no option stands twice in the profile. -/
def HasDistinctOptions (es : List (String × Datum)) : Prop :=
  ∀ options, es.lookup "profile" = some (.object options) → (options.map Prod.fst).Nodup

theorem textAt_eq_ok_iff {default s : String} :
    textAt key default fault es = .ok s ↔ valueAt es key (.text default) = .text s := by
  rw [textAt, valueAt]
  cases es.lookup key with
  | none => simp
  | some d => cases d <;> simp

theorem textAt_fault {default : String} (h : textAt key default fault es = .error f) : f = fault := by
  rw [textAt] at h
  split at h <;> cases h
  rfl

theorem itemsAt_eq_ok_iff {items : List Datum} :
    itemsAt key fault es = .ok items ↔ valueAt es key (.list []) = .list items := by
  rw [itemsAt, valueAt]
  cases es.lookup key with
  | none => simp
  | some d => cases d <;> simp

theorem itemsAt_fault (h : itemsAt key fault es = .error f) : f = fault := by
  rw [itemsAt] at h
  split at h <;> cases h
  rfl

theorem entriesAt_eq_ok_iff {inner : List (String × Datum)} :
    entriesAt key fault es = .ok inner ↔ valueAt es key (.object []) = .object inner := by
  rw [entriesAt, valueAt]
  cases es.lookup key with
  | none => simp
  | some d => cases d <;> simp

theorem entriesAt_fault (h : entriesAt key fault es = .error f) : f = fault := by
  rw [entriesAt] at h
  split at h <;> cases h
  rfl

section
variable {D : Nat → Datum → Place → DocumentFault → Prop} {α : Type}
  {read : Nat → Datum → Except DocumentFault α}

theorem tells_readItems_from (hread : ∀ index d, Tells (read index d) (D index d))
    (done items : List Datum) : Tells (readItems read done.length items)
      (DefectFrom done.length (ItemDefect D (done ++ items))) := by
  -- The items that are done stay in the statement, so that the others keep their indices.
  induction items generalizing done with
  | nil =>
    rintro place fault ⟨⟨entry, -⟩, n, rest, ⟨⟩, hn⟩
    rw [List.append_nil, List.getElem?_eq_none hn] at entry
    cases entry
  | cons item items ih =>
    rw [readItems]
    have hentry : (done ++ item :: items)[done.length]? = some item := by
      rw [List.getElem?_append_right (Nat.le_refl _), Nat.sub_self, List.getElem?_cons_zero]
    refine Tells.stage ((hread done.length item).congr fun place fault => ?_) fun a _ => ?_
    · constructor
      · exact .mk hentry
      · rintro ⟨entry, defect⟩
        cases hentry.symm.trans entry
        exact defect
    · have hrest := (ih (done ++ [item])).map (a :: ·)
      rwa [List.length_append, List.append_assoc] at hrest

theorem tells_readItems (hread : ∀ index d, Tells (read index d) (D index d)) (items : List Datum) :
    Tells (readItems read 0 items) (ItemDefect D items) := by
  refine (tells_readItems_from hread [] items).of_from 0 ?_
  rintro _ fault ⟨entry, defect⟩
  exact ⟨_, _, rfl, Nat.zero_le _⟩

end

theorem tells_readParameter (wireName : String) (position : Nat) (d : Datum) :
    Tells (readParameter wireName position d) (ParameterDefect wireName position d) := by
  rw [readParameter.eq_def]
  split
  · next es =>
    split
    · next hname htype =>
      intro place fault h
      cases h with
      | notObject h => exact h es rfl
      | incomplete h => exact h _ _ ⟨hname, htype⟩
    · next hmissing =>
      refine .of_only (.incomplete fun name type h => hmissing name type h.1 h.2) fun _ _ h => ?_
      cases h with
      | notObject h => exact absurd rfl (h es)
      | incomplete h => exact ⟨rfl, rfl⟩
  · next hobject =>
    refine .of_only (.notObject hobject) fun _ _ h => ?_
    cases h with
    | notObject h => exact ⟨rfl, rfl⟩
    | incomplete h => exact absurd rfl (hobject _)

section
variable {index : Nat} {wireName : String}

theorem OperationDefect.two_le (named : es.lookup "wire_name" = some (.text wireName))
    (h : OperationDefect index (.object es) place f) : ∃ n rest, place = n :: rest ∧ 2 ≤ n := by
  cases h with
  | notObject h => exact absurd rfl (h es)
  | wireName h => exact absurd named (h wireName)
  | _ => exact ⟨_, _, rfl, by decide⟩

theorem operationDefect_two_iff (named : es.lookup "wire_name" = some (.text wireName)) :
    OperationDefect index (.object es) (2 :: place) f ↔
      (∀ s, valueAt es "return_type" (.text "object") ≠ .text s) ∧
      place = [] ∧ f = .invalidReturnType wireName := by
  constructor
  · intro h
    cases h with
    | returnType named' h =>
      cases named.symm.trans named'
      exact ⟨h, rfl, rfl⟩
  · rintro ⟨h, rfl, rfl⟩
    exact .returnType named h

theorem operationDefect_three_iff (named : es.lookup "wire_name" = some (.text wireName)) :
    OperationDefect index (.object es) (3 :: place) f ↔
      (∀ items, valueAt es "parameters" (.list []) ≠ .list items) ∧
      place = [] ∧ f = .parametersNotList wireName := by
  constructor
  · intro h
    cases h with
    | parametersNotList named' h =>
      cases named.symm.trans named'
      exact ⟨h, rfl, rfl⟩
  · rintro ⟨h, rfl, rfl⟩
    exact .parametersNotList named h

theorem operationDefect_four_iff {items : List Datum}
    (named : es.lookup "wire_name" = some (.text wireName))
    (list : valueAt es "parameters" (.list []) = .list items) :
    OperationDefect index (.object es) (4 :: place) f ↔
      ItemDefect (ParameterDefect wireName) items place f := by
  constructor
  · intro h
    cases h with
    | parameter named' list' defect =>
      cases named.symm.trans named'
      cases list.symm.trans list'
      exact defect
  · exact .parameter named list

theorem tells_checkOperation (named : es.lookup "wire_name" = some (.text wireName))
    (parameters : List Parameter) (returnType : String) :
    Tells (checkOperation { wireName, parameters, returnType })
      fun place => OperationDefect index (.object es) (5 :: place) := by
  rw [checkOperation, OperationDraft.operation?]
  by_cases hempty : wireName = ""
  · rw [dif_pos hempty]
    subst hempty
    refine .of_only (.emptyWireName named) fun _ _ h => ?_
    cases h
    exact ⟨rfl, rfl⟩
  · rw [dif_neg hempty]
    intro place fault h
    cases h with
    | emptyWireName named' =>
      cases named.symm.trans named'
      exact hempty rfl

theorem tells_readOperation (index : Nat) (d : Datum) :
    Tells (readOperation index d) (OperationDefect index d) := by
  rw [readOperation.eq_def]
  split
  · next es =>
    split
    · next wireName named =>
      refine .of_from 2 ?_ fun _ _ h => h.two_le named
      refine .stage ?_ fun returnType _ => .stage ?_ fun items hlist =>
        .stage ?_ fun parameters _ => .last (tells_checkOperation named parameters returnType) ?_
      · exact .of_check (fun _ => textAt_eq_ok_iff) (fun _ => textAt_fault) fun place f =>
          operationDefect_two_iff named
      · exact .of_check (fun _ => itemsAt_eq_ok_iff) (fun _ => itemsAt_fault) fun place f =>
          operationDefect_three_iff named
      · refine (tells_readItems (tells_readParameter wireName) items).congr fun place f => ?_
        exact (operationDefect_four_iff named (itemsAt_eq_ok_iff.1 hlist)).symm
      · intro n rest fault h
        cases h <;> decide
    · next hmissing =>
      refine .of_only (.wireName hmissing) fun _ _ h => ?_
      cases h with
      | notObject h => exact absurd rfl (h es)
      | wireName h => exact ⟨rfl, rfl⟩
      | returnType named | parametersNotList named | parameter named | emptyWireName named =>
        exact absurd named (hmissing _)
  · next hobject =>
    refine .of_only (.notObject hobject) fun _ _ h => ?_
    cases h with
    | notObject h => exact ⟨rfl, rfl⟩
    | _ => exact absurd rfl (hobject _)

end

section
variable {className : String}

theorem serviceDefect_first (h : ∀ s, es.lookup "class_name" = some (.text s) → s = "") :
    IsFirst (ServiceDefect es) .missingClassName := by
  refine ⟨[0], .className h, fun place fault hd => ?_⟩
  cases hd with
  | className => exact .inr ⟨rfl, rfl⟩
  | _ => exact .inl (List.cons_lt_cons_iff.2 (.inl (by decide)))

theorem ServiceDefect.one_le (named : es.lookup "class_name" = some (.text className))
    (hne : className ≠ "") (h : ServiceDefect es place f) : ∃ n rest, place = n :: rest ∧ 1 ≤ n := by
  cases h with
  | className h => exact absurd (h className named) hne
  | _ => exact ⟨_, _, rfl, by decide⟩

theorem serviceDefect_one_iff : ServiceDefect es (1 :: place) f ↔
    (∀ s, valueAt es "namespace" (.text "") ≠ .text s) ∧ place = [] ∧ f = .namespaceNotText := by
  constructor
  · intro h
    cases h with
    | namespaceNotText h => exact ⟨h, rfl, rfl⟩
  · rintro ⟨h, rfl, rfl⟩
    exact .namespaceNotText h

theorem serviceDefect_two_iff : ServiceDefect es (2 :: place) f ↔
    (∀ items, valueAt es "methods" (.list []) ≠ .list items) ∧ place = [] ∧ f = .methodsNotList := by
  constructor
  · intro h
    cases h with
    | methodsNotList h => exact ⟨h, rfl, rfl⟩
  · rintro ⟨h, rfl, rfl⟩
    exact .methodsNotList h

theorem serviceDefect_three_iff {items : List Datum}
    (list : valueAt es "methods" (.list []) = .list items) :
    ServiceDefect es (3 :: place) f ↔ ItemDefect OperationDefect items place f := by
  constructor
  · intro h
    cases h with
    | operation list' defect =>
      cases list.symm.trans list'
      exact defect
  · exact .operation list

theorem serviceDefect_four_iff (named : es.lookup "class_name" = some (.text className)) :
    ServiceDefect es (4 :: place) f ↔
      isIdentifier className = false ∧ place = [] ∧ f = .invalidClassName className := by
  constructor
  · intro h
    cases h with
    | invalidClassName named' h =>
      cases named.symm.trans named'
      exact ⟨h, rfl, rfl⟩
  · rintro ⟨h, rfl, rfl⟩
    exact .invalidClassName named h

theorem tells_readService (es : List (String × Datum)) :
    Tells (readService es) (ServiceDefect es) := by
  rw [readService]
  split
  · next className named =>
    split
    · next hempty =>
      refine serviceDefect_first fun s hs => ?_
      cases named.symm.trans hs
      exact hempty
    · next hne =>
      refine .of_from 1 ?_ fun _ _ h => h.one_le named hne
      refine .stage ?_ fun home _ => .stage ?_ fun items hlist =>
        .stage ?_ fun operations _ => .last ?_ ?_
      · exact .of_check (fun _ => textAt_eq_ok_iff) (fun _ => textAt_fault) fun place f =>
          serviceDefect_one_iff
      · exact .of_check (fun _ => itemsAt_eq_ok_iff) (fun _ => itemsAt_fault) fun place f =>
          serviceDefect_two_iff
      · refine (tells_readItems tells_readOperation items).congr fun place f => ?_
        exact (serviceDefect_three_iff (itemsAt_eq_ok_iff.1 hlist)).symm
      · split
        · next hok =>
          intro place fault h
          exact Bool.eq_false_iff.1 ((serviceDefect_four_iff named).1 h).1 hok
        · next hnot =>
          refine .of_only ((serviceDefect_four_iff named).2 ⟨Bool.eq_false_iff.2 hnot, rfl, rfl⟩) ?_
          exact fun place fault h => ((serviceDefect_four_iff named).1 h).2
      · intro n rest fault h
        cases h <;> decide
  · next hmissing =>
    exact serviceDefect_first fun s hs => absurd hs (hmissing s)

end

theorem HasDistinctOptions.nodup (h : HasDistinctOptions es) {options : List (String × Datum)}
    (object : valueAt es "profile" (.object []) = .object options) :
    (options.map Prod.fst).Nodup := by
  rw [valueAt] at object
  cases hl : es.lookup "profile" with
  | none =>
    rw [hl] at object
    cases object
    exact List.nodup_nil
  | some value =>
    rw [hl] at object
    cases object
    exact h options hl

theorem defect_zero_iff : Defect es (0 :: place) f ↔
    (∀ options, valueAt es "profile" (.object []) ≠ .object options) ∧
      place = [] ∧ f = .profileNotObject := by
  constructor
  · intro h
    cases h with
    | profileNotObject h => exact ⟨h, rfl, rfl⟩
  · rintro ⟨h, rfl, rfl⟩
    exact .profileNotObject h

theorem defect_one_iff : Defect es (1 :: place) f ↔ ServiceDefect es place f := by
  constructor
  · intro h
    cases h with
    | service defect => exact defect
  · exact .service

theorem defect_two_iff {options : List (String × Datum)}
    (object : valueAt es "profile" (.object []) = .object options) :
    Defect es (2 :: place) f ↔
      ∃ fault, OptionsTell options fault ∧ place = [] ∧ f = .profile fault := by
  constructor
  · intro h
    cases h with
    | @profile options' fault object' h =>
      cases object.symm.trans object'
      exact ⟨fault, h, rfl, rfl⟩
  · rintro ⟨fault, h, rfl, rfl⟩
    exact .profile object h

/-- What is said of the options of a profile is said of its document. -/
theorem tells_profile {options : List (String × Datum)} (hkeys : (options.map Prod.fst).Nodup)
    (object : valueAt es "profile" (.object []) = .object options) :
    Tells ((Profile.ofEntries options).mapError .profile) fun place => Defect es (2 :: place) := by
  have htell : ∀ fault, Profile.ofEntries options = .error fault ↔ OptionsTell options fault :=
    fun fault => Profile.ofEntries_eq_error_iff hkeys
  cases hp : Profile.ofEntries options with
  | error fault =>
    refine .of_only ((defect_two_iff object).2 ⟨fault, (htell fault).1 hp, rfl, rfl⟩) ?_
    intro place f hd
    obtain ⟨fault', h, rfl, rfl⟩ := (defect_two_iff object).1 hd
    cases hp.symm.trans ((htell fault').2 h)
    exact ⟨rfl, rfl⟩
  | ok p =>
    intro place f hd
    obtain ⟨fault, h, -⟩ := (defect_two_iff object).1 hd
    cases hp.symm.trans ((htell fault).2 h)

/-- Reading a document tells its first defect, if it has one. -/
theorem tells_ofEntries (hkeys : HasDistinctOptions es) : Tells (ofEntries es) (Defect es) := by
  rw [ofEntries]
  refine .of_from 0 (.stage ?_ fun options hoptions => .stage ?_ fun service _ => .last ?_ ?_) ?_
  · exact .of_check (fun _ => entriesAt_eq_ok_iff) (fun _ => entriesAt_fault) fun place f =>
      defect_zero_iff
  · exact (tells_readService es).congr fun place f => defect_one_iff.symm
  · have object := entriesAt_eq_ok_iff.1 hoptions
    exact (tells_profile (hkeys.nodup object) object).map _
  · intro n rest fault h
    cases h <;> decide
  · intro place fault h
    cases h <;> exact ⟨_, _, rfl, Nat.zero_le _⟩

end Document

end ClientGen
