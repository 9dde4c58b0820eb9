import ClientGen.Descriptor
import ClientGen.Proofs.DocumentDefects
import Mathlib.Data.List.Forall2

namespace ClientGen
variable {es : List (String × Datum)}

namespace Document

/-- The parameter that an entry describes at a position. -/
inductive IsParameter (position : Nat) : Datum → Parameter → Prop where
  | mk {es : List (String × Datum)} {name type : String}
      (named : es.lookup "name" = some (.text name)) (typed : es.lookup "type" = some (.text type)) :
    IsParameter position (.object es) { name, type, position }

/-- The operation that an entry describes. -/
inductive IsOperation : Datum → Operation → Prop where
  | mk {es : List (String × Datum)} {items : List Datum} {op : Operation}
      (wireName : es.lookup "wire_name" = some (.text op.wireName))
      (returnType : valueAt es "return_type" (.text "object") = .text op.returnType)
      (list : valueAt es "parameters" (.list []) = .list items)
      (parameters : List.Forall₂ (fun item x => IsParameter item.2 item.1 x) items.zipIdx
        op.parameters) :
    IsOperation (.object es) op

/-- Whether the entries of an object describe a service. -/
inductive IsService (es : List (String × Datum)) (s : Service) : Prop where
  | mk {items : List Datum} (className : es.lookup "class_name" = some (.text s.className))
      (home : valueAt es "namespace" (.text "") = .text s.home)
      (list : valueAt es "methods" (.list []) = .list items)
      (operations : List.Forall₂ IsOperation items s.operations)

/-- Whether the entries of an object describe a document. -/
inductive Describes (es : List (String × Datum)) (d : Document) : Prop where
  | mk {options : List (String × Datum)} (service : IsService es d.service)
      (object : valueAt es "profile" (.object []) = .object options)
      (acceptable : AreAcceptable options) (profile : d.profile.settings = .updated {} options)

section
variable {α : Type} {read : Nat → Datum → Except DocumentFault α}

theorem readItems_eq_ok_iff {R : Nat → Datum → α → Prop}
    (hread : ∀ index d a, read index d = .ok a ↔ R index d a) {items : List Datum} {start : Nat}
    {as : List α} :
    readItems read start items = .ok as ↔
      List.Forall₂ (fun item a => R item.2 item.1 a) (items.zipIdx start) as := by
  induction items generalizing start as with
  | nil => rw [readItems, List.zipIdx_nil, List.forall₂_nil_left_iff, Except.ok.injEq, eq_comm]
  | cons item items ih =>
    rw [readItems, List.zipIdx_cons, List.forall₂_cons_left_iff]
    simp only [bind_eq_ok_iff, hread, ih]
    constructor
    · rintro ⟨a, ha, as', has, ⟨⟩⟩
      exact ⟨a, as', ha, has, rfl⟩
    · rintro ⟨a, as', ha, has, rfl⟩
      exact ⟨a, ha, as', has, rfl⟩

end

theorem readParameter_eq_ok_iff {wireName : String} {position : Nat} {d : Datum} {x : Parameter} :
    readParameter wireName position d = .ok x ↔ IsParameter position d x := by
  constructor
  · intro h
    rw [readParameter.eq_def] at h
    split at h
    · split at h
      · next named typed =>
        cases h
        exact .mk named typed
      · cases h
    · cases h
  · rintro ⟨named, typed⟩
    rw [readParameter, named, typed]

theorem checkOperation_eq_ok_iff {d : OperationDraft} {op : Operation} :
    checkOperation d = .ok op ↔ op.toOperationDraft = d := by
  rw [checkOperation, OperationDraft.operation?]
  split
  · next h =>
    split at h
    · cases h
    · cases h
      constructor
      · rintro ⟨⟩
        rfl
      · rintro rfl
        rfl
  · next h =>
    split at h
    · next hempty =>
      constructor
      · intro h
        cases h
      · rintro rfl
        exact absurd hempty op.wireName_ne
    · cases h

theorem readOperation_eq_ok_iff {index : Nat} {d : Datum} {op : Operation} :
    readOperation index d = .ok op ↔ IsOperation d op := by
  constructor
  · intro h
    rw [readOperation.eq_def] at h
    split at h
    · split at h
      · next hname =>
        simp only [bind_eq_ok_iff, textAt_eq_ok_iff, itemsAt_eq_ok_iff, checkOperation_eq_ok_iff,
          readItems_eq_ok_iff fun _ _ _ => readParameter_eq_ok_iff] at h
        obtain ⟨returnType, hreturn, items, hlist, parameters, hparameters, hop⟩ := h
        obtain ⟨draft, hne⟩ := op
        cases hop
        exact .mk hname hreturn hlist hparameters
      · cases h
    · cases h
  · rintro ⟨wireName, returnType, list, parameters⟩
    rw [readOperation, wireName]
    simp only [bind_eq_ok_iff, textAt_eq_ok_iff, itemsAt_eq_ok_iff, checkOperation_eq_ok_iff,
      readItems_eq_ok_iff fun _ _ _ => readParameter_eq_ok_iff]
    exact ⟨_, returnType, _, list, _, parameters, rfl⟩

theorem forall₂_zipIdx_iff {α : Type} {R : Datum → α → Prop} {items : List Datum} {as : List α} :
    List.Forall₂ (fun item a => R item.1 a) items.zipIdx as ↔ List.Forall₂ R items as := by
  have h := List.forall₂_map_left_iff (R := R) (f := Prod.fst) (l := items.zipIdx) (u := as)
  rw [List.zipIdx_map_fst] at h
  exact h.symm

theorem readService_eq_ok_iff {s : Service} : readService es = .ok s ↔ IsService es s := by
  constructor
  · intro h
    rw [readService] at h
    split at h
    · next className hname =>
      split at h
      · cases h
      · simp only [bind_eq_ok_iff, textAt_eq_ok_iff, itemsAt_eq_ok_iff,
          readItems_eq_ok_iff fun _ _ _ => readOperation_eq_ok_iff] at h
        obtain ⟨home, hhome, items, hlist, operations, hoperations, h⟩ := h
        split at h
        · cases h
          exact .mk hname hhome hlist (forall₂_zipIdx_iff.1 hoperations)
        · cases h
    · cases h
  · rintro ⟨className, home, list, operations⟩
    have hne : s.className ≠ "" := by
      intro hempty
      have hok := s.className_ok
      rw [hempty] at hok
      cases hok
    rw [readService, className]
    simp only [if_neg hne, bind_eq_ok_iff, textAt_eq_ok_iff, itemsAt_eq_ok_iff,
      readItems_eq_ok_iff fun _ _ _ => readOperation_eq_ok_iff]
    exact ⟨_, home, _, list, _, forall₂_zipIdx_iff.2 operations, dif_pos s.className_ok⟩

theorem ofEntries_eq_ok_iff (hkeys : HasDistinctOptions es) {d : Document} :
    ofEntries es = .ok d ↔ Describes es d := by
  rw [ofEntries]
  simp only [bind_eq_ok_iff, entriesAt_eq_ok_iff, readService_eq_ok_iff, mapError_eq_ok_iff]
  constructor
  · rintro ⟨options, object, service, hservice, profile, hprofile, ⟨⟩⟩
    obtain ⟨acceptable, hsettings⟩ := (Profile.ofEntries_eq_ok_iff (hkeys.nodup object)).1 hprofile
    exact .mk hservice object acceptable hsettings
  · rintro ⟨service, object, acceptable, hsettings⟩
    have hprofile := (Profile.ofEntries_eq_ok_iff (hkeys.nodup object)).2 ⟨acceptable, hsettings⟩
    exact ⟨_, object, _, service, _, hprofile, rfl⟩

end Document

def Parameter.written (x : Parameter) : Datum :=
  .object [("name", .text x.name), ("type", .text x.type)]

def Operation.written (op : Operation) : Datum :=
  .object [("wire_name", .text op.wireName), ("return_type", .text op.returnType),
    ("parameters", .list (op.parameters.map Parameter.written))]

def Profile.written (p : Profile) : List (String × Datum) :=
  TextOption.all.map (fun o => (o.key, .text (p.settings.text o))) ++
    [(futureAnnotationsKey, .flag p.futureAnnotations)]

def Document.written (d : Document) : List (String × Datum) :=
  [("class_name", .text d.service.className), ("namespace", .text d.service.home),
    ("methods", .list (d.service.operations.map Operation.written)),
    ("profile", .object d.profile.written)]

/-- Whether the parameters of an operation have their places as positions. -/
def Operation.IsNumbered (op : Operation) : Prop :=
  op.parameters.map Parameter.position = List.range op.parameters.length

namespace Profile
variable (p : Profile)

theorem keys_written : p.written.map Prod.fst = optionKeys :=
  rfl

theorem updated_written : Settings.updated {} p.written = p.settings := by
  rw [Settings.updated, settings.eq_def, Settings.mk.injEq]
  constructor
  · funext o
    cases o <;> rfl
  · rfl

theorem areAcceptable_written : AreAcceptable p.written where
  known k hk := hk
  typed e he := by
    refine (fitsOption_iff.1 ?_).2
    rcases List.mem_append.1 he with he | he
    · obtain ⟨o, -, rfl⟩ := List.mem_map.1 he
      exact .text o _
    · cases List.mem_singleton.1 he
      exact .flag _
  usable := by
    rw [updated_written]
    exact Settings.exists_profile_iff.1 ⟨p, p.profile_settings⟩

end Profile

namespace Document

theorem isParameter_written {parameters : List Parameter} {start : Nat}
    (h : parameters.map Parameter.position = List.range' start parameters.length) :
    List.Forall₂ (fun item x => IsParameter item.2 item.1 x)
      ((parameters.map Parameter.written).zipIdx start) parameters := by
  induction parameters generalizing start with
  | nil => exact .nil
  | cons x parameters ih =>
    rw [List.map_cons, List.length_cons, List.range'_succ, List.cons.injEq] at h
    obtain ⟨rfl, htail⟩ := h
    exact .cons (.mk rfl rfl) (ih htail)

theorem isOperation_written {op : Operation} (h : op.IsNumbered) : IsOperation op.written op := by
  refine .mk rfl rfl rfl (isParameter_written ?_)
  rw [← List.range_eq_range']
  exact h

theorem describes_written {d : Document} (h : ∀ op ∈ d.service.operations, op.IsNumbered) :
    Describes d.written d := by
  have hservice : IsService d.written d.service := by
    refine .mk rfl rfl rfl ?_
    rw [List.forall₂_map_left_iff, List.forall₂_same]
    exact fun op hop => isOperation_written (h op hop)
  exact .mk hservice rfl d.profile.areAcceptable_written d.profile.updated_written.symm

theorem hasDistinctOptions_written (d : Document) : HasDistinctOptions d.written := by
  rintro options ⟨⟩
  rw [Profile.keys_written]
  decide

end Document

namespace Descriptor

theorem load_entries_eq_ok_iff {d : Document} :
    (Descriptor.entries es).load = .ok d ↔ Document.ofEntries es = .ok d := by
  rw [load, DescriptorFile.readDocument, mapError_eq_ok_iff, mapError_eq_ok_iff]

theorem load_entries_eq_error_iff {e : LoadError} :
    (Descriptor.entries es).load = .error e ↔
      ∃ fault, Document.ofEntries es = .error fault ∧ e = .descriptor (.document fault) := by
  rw [load, DescriptorFile.readDocument]
  simp only [mapError_eq_error_iff]
  constructor
  · rintro ⟨e', ⟨fault, hf, rfl⟩, rfl⟩
    exact ⟨fault, hf, rfl⟩
  · rintro ⟨fault, hf, rfl⟩
    exact ⟨_, ⟨fault, hf, rfl⟩, rfl⟩

/-- A document is loaded exactly if it has no defect, and is what its entries describe then: its
operations and their parameters in order, with the defaults for what is left out. Otherwise the
first defect is told as an error of the descriptor. What is written out in the format is loaded
unchanged. -/
theorem load_entries (hkeys : Document.HasDistinctOptions es) :
    (∀ d, (Descriptor.entries es).load = .ok d ↔ Document.Describes es d) ∧
    (∀ e, (Descriptor.entries es).load = .error e ↔
      ∃ fault, IsFirst (Document.Defect es) fault ∧ e = .descriptor (.document fault)) ∧
    ((∃ e, (Descriptor.entries es).load = .error e) ↔
      ∃ place fault, Document.Defect es place fault) ∧
    ∀ d : Document, (∀ op ∈ d.service.operations, op.IsNumbered) →
      (Descriptor.entries d.written).load = .ok d := by
  have htells := Document.tells_ofEntries hkeys
  refine ⟨fun d => ?_, fun e => ?_, ?_, fun d hd => ?_⟩
  · rw [load_entries_eq_ok_iff, Document.ofEntries_eq_ok_iff hkeys]
  · rw [load_entries_eq_error_iff]
    exact exists_congr fun fault => and_congr_left fun _ => htells.error_iff
  · rw [← htells.exists_error_iff]
    constructor
    · rintro ⟨e, he⟩
      obtain ⟨fault, hf, -⟩ := load_entries_eq_error_iff.1 he
      exact ⟨fault, hf⟩
    · rintro ⟨fault, hf⟩
      exact ⟨_, load_entries_eq_error_iff.2 ⟨fault, hf, rfl⟩⟩
  · rw [load_entries_eq_ok_iff, Document.ofEntries_eq_ok_iff d.hasDistinctOptions_written]
    exact Document.describes_written hd

end Descriptor

/-- A document with a parameter that has no type, in front of an operation that is none, for a class
that cannot be named so. -/
def flawedEntries : List (String × Datum) :=
  [("profile", .object [("color", .text "red")]),
    ("methods", .list [
      .object [("wire_name", .text ""), ("parameters", .list [
        .object [("name", .text "key"), ("type", .text "int")], .object [("name", .text "depth")]])],
      .text "write"]),
    ("class_name", .text "Key Store")]

theorem flawedEntries_told : Document.HasDistinctOptions flawedEntries ∧
    IsFirst (Document.Defect flawedEntries) (.incompleteParameter 1 "") := by
  have hkeys : Document.HasDistinctOptions flawedEntries := by
    rintro options ⟨⟩
    decide
  have hload : (Descriptor.entries flawedEntries).load =
      .error (.descriptor (.document (.incompleteParameter 1 ""))) := rfl
  refine ⟨hkeys, ?_⟩
  obtain ⟨fault, hfirst, ⟨⟩⟩ := ((Descriptor.load_entries hkeys).2.1 _).1 hload
  exact hfirst

/-- What is left out of a document has its default. -/
example : (Descriptor.entries [("class_name", .text "Store"),
    ("methods", .list [.object [("wire_name", .text "read")]])]).load =
    .ok {
      service := {
        className := "Store"
        operations := [{ wireName := "read", wireName_ne := by decide }]
        className_ok := rfl }
      profile := Profile.standard } :=
  rfl

end ClientGen
