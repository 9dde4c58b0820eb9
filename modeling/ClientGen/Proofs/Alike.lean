import ClientGen.Descriptor
import Mathlib.Data.List.Basic

namespace ClientGen

mutual

/-- Whether two values differ in how numbers are written at most. -/
inductive Alike : Datum → Datum → Prop where
  | null : Alike .null .null
  | flag (b : Bool) : Alike (.flag b) (.flag b)
  | other (literal literal' : String) : Alike (.other literal) (.other literal')
  | text (s : String) : Alike (.text s) (.text s)
  | list {items items' : List Datum} (h : ItemsAlike items items') :
      Alike (.list items) (.list items')
  | object {es es' : List (String × Datum)} (h : EntriesAlike es es') :
      Alike (.object es) (.object es')

/-- Whether two lists have alike items. -/
inductive ItemsAlike : List Datum → List Datum → Prop where
  | nil : ItemsAlike [] []
  | cons {d d' : Datum} {items items' : List Datum} (head : Alike d d')
    (tail : ItemsAlike items items') : ItemsAlike (d :: items) (d' :: items')

/-- Whether two objects have the same keys in the same order, with alike values. -/
inductive EntriesAlike : List (String × Datum) → List (String × Datum) → Prop where
  | nil : EntriesAlike [] []
  | cons {key : String} {d d' : Datum} {es es' : List (String × Datum)} (head : Alike d d')
    (tail : EntriesAlike es es') : EntriesAlike ((key, d) :: es) ((key, d') :: es')

end

namespace EntriesAlike

theorem keys {es es' : List (String × Datum)} :
    EntriesAlike es es' → es.map Prod.fst = es'.map Prod.fst
  | .nil => rfl
  | .cons _ tail => congrArg (List.cons _) tail.keys

theorem lookup (key : String) {es es' : List (String × Datum)} : EntriesAlike es es' →
    (es.lookup key = none ∧ es'.lookup key = none) ∨
      ∃ d d', es.lookup key = some d ∧ es'.lookup key = some d' ∧ Alike d d'
  | .nil => .inl ⟨rfl, rfl⟩
  | @cons k d d' _ _ head tail => by
    rw [List.lookup_cons, List.lookup_cons]
    cases key == k with
    | true => exact .inr ⟨d, d', rfl, rfl, head⟩
    | false => exact tail.lookup key

end EntriesAlike

namespace Settings

theorem set?_alike {d d' : Datum} (h : Alike d d') (s : Settings) (key : String) :
    s.set? key d = s.set? key d' := by
  unfold set?
  cases h with
  | flag b => rfl
  | text v => rfl
  | _ => split <;> cases TextOption.ofKey? key <;> rfl

theorem setAll_alike {es es' : List (String × Datum)} (s : Settings) :
    EntriesAlike es es' → s.setAll es = s.setAll es'
  | .nil => rfl
  | @EntriesAlike.cons key _ _ _ _ head tail => by
    rw [setAll, setAll, set?_alike head]
    split
    · next s' _ => exact s'.setAll_alike tail
    · rfl

end Settings

theorem Profile.ofEntries_alike {es es' : List (String × Datum)} (h : EntriesAlike es es') :
    ofEntries es = ofEntries es' := by
  rw [ofEntries, ofEntries, h.keys, Settings.setAll_alike {} h]

namespace Document
variable {es es' : List (String × Datum)}

theorem textAt_alike (h : EntriesAlike es es') (key default : String) (fault : DocumentFault) :
    textAt key default fault es = textAt key default fault es' := by
  rw [textAt, textAt]
  rcases h.lookup key with ⟨hl, hl'⟩ | ⟨d, d', hl, hl', hd⟩
  · rw [hl, hl']
  · rw [hl, hl']
    cases hd <;> rfl

theorem itemsAt_alike (h : EntriesAlike es es') (key : String) (fault : DocumentFault) :
    (itemsAt key fault es = .error fault ∧ itemsAt key fault es' = .error fault) ∨
      ∃ items items', itemsAt key fault es = .ok items ∧ itemsAt key fault es' = .ok items' ∧
        ItemsAlike items items' := by
  rw [itemsAt, itemsAt]
  rcases h.lookup key with ⟨hl, hl'⟩ | ⟨d, d', hl, hl', hd⟩
  · rw [hl, hl']
    exact .inr ⟨[], [], rfl, rfl, .nil⟩
  · rw [hl, hl']
    cases hd with
    | list hitems => exact .inr ⟨_, _, rfl, rfl, hitems⟩
    | _ => exact .inl ⟨rfl, rfl⟩

theorem entriesAt_alike (h : EntriesAlike es es') (key : String) (fault : DocumentFault) :
    (entriesAt key fault es = .error fault ∧ entriesAt key fault es' = .error fault) ∨
      ∃ inner inner', entriesAt key fault es = .ok inner ∧ entriesAt key fault es' = .ok inner' ∧
        EntriesAlike inner inner' := by
  rw [entriesAt, entriesAt]
  rcases h.lookup key with ⟨hl, hl'⟩ | ⟨d, d', hl, hl', hd⟩
  · rw [hl, hl']
    exact .inr ⟨[], [], rfl, rfl, .nil⟩
  · rw [hl, hl']
    cases hd with
    | object hentries => exact .inr ⟨_, _, rfl, rfl, hentries⟩
    | _ => exact .inl ⟨rfl, rfl⟩

theorem readItems_alike {α : Type} {read : Nat → Datum → Except DocumentFault α}
    (hread : ∀ index {d d' : Datum}, Alike d d' → read index d = read index d')
    {items items' : List Datum} (index : Nat) :
    ItemsAlike items items' → readItems read index items = readItems read index items'
  | .nil => rfl
  | .cons head tail => by
    rw [readItems, readItems, hread index head, readItems_alike hread (index + 1) tail]

theorem readParameter_alike (wireName : String) (position : Nat) {d d' : Datum} (h : Alike d d') :
    readParameter wireName position d = readParameter wireName position d' := by
  cases h with
  | object he =>
    rw [readParameter, readParameter]
    rcases he.lookup "name" with ⟨hl, hl'⟩ | ⟨n, n', hl, hl', hn⟩
    · rw [hl, hl']
    · rcases he.lookup "type" with ⟨ht, ht'⟩ | ⟨t, t', ht, ht', htype⟩
      · rw [hl, hl', ht, ht']
        cases hn <;> rfl
      · rw [hl, hl', ht, ht']
        cases hn <;> cases htype <;> rfl
  | _ => rfl

theorem readOperation_alike (index : Nat) {d d' : Datum} (h : Alike d d') :
    readOperation index d = readOperation index d' := by
  cases h with
  | object he =>
    rw [readOperation, readOperation]
    rcases he.lookup "wire_name" with ⟨hl, hl'⟩ | ⟨n, n', hl, hl', hn⟩
    · rw [hl, hl']
    · rw [hl, hl']
      cases hn with
      | text wireName =>
        dsimp only
        rw [textAt_alike he]
        rcases itemsAt_alike he "parameters" (.parametersNotList wireName) with
          ⟨hi, hi'⟩ | ⟨items, items', hi, hi', hitems⟩
        · rw [hi, hi']
        · rw [hi, hi']
          have hps := readItems_alike (readParameter_alike wireName) 0 hitems
          simp only [bind, Except.bind, hps]
      | _ => rfl
  | _ => rfl

theorem readService_alike (h : EntriesAlike es es') : readService es = readService es' := by
  rw [readService, readService]
  rcases h.lookup "class_name" with ⟨hl, hl'⟩ | ⟨n, n', hl, hl', hn⟩
  · rw [hl, hl']
  · rw [hl, hl']
    cases hn with
    | text className =>
      dsimp only
      rw [textAt_alike h]
      rcases itemsAt_alike h "methods" .methodsNotList with
        ⟨hi, hi'⟩ | ⟨items, items', hi, hi', hitems⟩
      · rw [hi, hi']
      · rw [hi, hi']
        have hops := readItems_alike readOperation_alike 0 hitems
        simp only [bind, Except.bind, hops]
    | _ => rfl

/-- How numbers are written counts for nothing in a document. -/
theorem ofEntries_alike (h : EntriesAlike es es') : ofEntries es = ofEntries es' := by
  rw [ofEntries, ofEntries, readService_alike h]
  rcases entriesAt_alike h "profile" .profileNotObject with ⟨hp, hp'⟩ | ⟨inner, inner', hp, hp', hi⟩
  · rw [hp, hp']
  · rw [hp, hp']
    simp only [bind, Except.bind, Profile.ofEntries_alike hi]

end Document

theorem DescriptorFile.readDocument_alike {d d' : Datum} (h : Alike d d') :
    readDocument d = readDocument d' := by
  cases h with
  | object he => rw [readDocument, readDocument, Document.ofEntries_alike he]
  | _ => rfl

end ClientGen
