import ClientGen.Json.Value
import Mathlib.Data.List.Basic

namespace ClientGen.Json

def pointsOf (s : String) : List Nat :=
  s.toList.map Char.toNat

theorem textOf?_pointsOf (s : String) : textOf? (pointsOf s) = some s := by
  have hvalid : ∀ n ∈ pointsOf s, n.isValidChar := by
    intro n hn
    obtain ⟨c, -, rfl⟩ := List.mem_map.1 hn
    exact c.valid
  have hback : (pointsOf s).map Char.ofNat = s.toList := by
    rw [pointsOf, List.map_map]
    exact List.map_id'' Char.ofNat_toNat _
  rw [textOf?, if_pos hvalid, hback, String.ofList_toList]

theorem pointsOf_injective : Function.Injective pointsOf := by
  intro s t h
  have hs := textOf?_pointsOf s
  rw [h, textOf?_pointsOf] at hs
  exact (Option.some.inj hs).symm

theorem textOf?_eq_none_iff {points : List Nat} :
    textOf? points = none ↔ ∃ n ∈ points, ¬n.isValidChar := by
  rw [textOf?, ite_eq_right_iff]
  simp

namespace Value

mutual

def ofDatum : Datum → Value
  | .null => .null
  | .flag b => .flag b
  | .other literal => .other literal
  | .text s => .text (pointsOf s)
  | .list items => .list (ofItems items)
  | .object es => .object (ofEntries es)

def ofItems : List Datum → List Value
  | [] => []
  | d :: items => ofDatum d :: ofItems items

def ofEntries : List (String × Datum) → List (List Nat × Value)
  | [] => []
  | (key, d) :: es => (pointsOf key, ofDatum d) :: ofEntries es

end

mutual

theorem datum?_ofDatum : ∀ d : Datum, (ofDatum d).datum? = some d
  | .null | .flag _ | .other _ => rfl
  | .text s => by rw [ofDatum, datum?, textOf?_pointsOf, Option.map_some]
  | .list items => by rw [ofDatum, datum?, itemData?_ofItems, Option.map_some]
  | .object es => by rw [ofDatum, datum?, entryData?_ofEntries, Option.map_some]

theorem itemData?_ofItems : ∀ items : List Datum, itemData? (ofItems items) = some items
  | [] => rfl
  | d :: items => by
    rw [ofItems, itemData?, datum?_ofDatum, itemData?_ofItems]
    rfl

theorem entryData?_ofEntries : ∀ es : List (String × Datum), entryData? (ofEntries es) = some es
  | [] => rfl
  | (key, d) :: es => by
    rw [ofEntries, entryData?, textOf?_pointsOf, datum?_ofDatum, entryData?_ofEntries]
    rfl

end

theorem ofEntries_append (es more : List (String × Datum)) :
    ofEntries (es ++ more) = ofEntries es ++ ofEntries more := by
  induction es with
  | nil => rfl
  | cons e es ih => rw [List.cons_append, ofEntries, ofEntries, ih, List.cons_append]

theorem keys_ofEntries (es : List (String × Datum)) :
    (ofEntries es).map Prod.fst = (es.map Prod.fst).map pointsOf := by
  induction es with
  | nil => rfl
  | cons e es ih => rw [ofEntries, List.map_cons, List.map_cons, List.map_cons, ih]

/-- Whether half of a surrogate pair stands in a text of a value, or in a key. -/
inductive HoldsHalf : Value → Prop where
  | text {points : List Nat} {n : Nat} (point : n ∈ points) (half : ¬n.isValidChar) :
    HoldsHalf (.text points)
  | item {items : List Value} {v : Value} (item : v ∈ items) (half : HoldsHalf v) :
    HoldsHalf (.list items)
  | key {es : List (List Nat × Value)} {e : List Nat × Value} {n : Nat} (entry : e ∈ es)
    (point : n ∈ e.1) (half : ¬n.isValidChar) : HoldsHalf (.object es)
  | value {es : List (List Nat × Value)} {e : List Nat × Value} (entry : e ∈ es)
    (half : HoldsHalf e.2) : HoldsHalf (.object es)

theorem holdsHalf_list_iff {items : List Value} :
    HoldsHalf (.list items) ↔ ∃ v ∈ items, HoldsHalf v := by
  constructor
  · rintro (- | ⟨hv, h⟩)
    exact ⟨_, hv, h⟩
  · rintro ⟨v, hv, h⟩
    exact .item hv h

theorem holdsHalf_object_iff {es : List (List Nat × Value)} :
    HoldsHalf (.object es) ↔ ∃ e ∈ es, (∃ n ∈ e.1, ¬n.isValidChar) ∨ HoldsHalf e.2 := by
  constructor
  · rintro (- | - | ⟨he, hn, h⟩ | ⟨he, h⟩)
    · exact ⟨_, he, .inl ⟨_, hn, h⟩⟩
    · exact ⟨_, he, .inr h⟩
  · rintro ⟨e, he, ⟨n, hn, h⟩ | h⟩
    · exact .key he hn h
    · exact .value he h

mutual

theorem datum?_eq_none_iff : ∀ v : Value, v.datum? = none ↔ HoldsHalf v
  | .null | .flag _ | .other _ => by
    constructor
    all_goals
      intro h
      cases h
  | .text points => by
    rw [datum?, Option.map_eq_none_iff, textOf?_eq_none_iff]
    constructor
    · rintro ⟨n, hn, h⟩
      exact .text hn h
    · rintro ⟨hn, h⟩
      exact ⟨_, hn, h⟩
  | .list items => by
    rw [datum?, Option.map_eq_none_iff, itemData?_eq_none_iff, holdsHalf_list_iff]
  | .object es => by
    rw [datum?, Option.map_eq_none_iff, entryData?_eq_none_iff, holdsHalf_object_iff]

theorem itemData?_eq_none_iff :
    ∀ items : List Value, itemData? items = none ↔ ∃ v ∈ items, HoldsHalf v
  | [] => by simp [itemData?]
  | v :: items => by
    rw [itemData?, List.exists_mem_cons_iff, ← datum?_eq_none_iff v, ← itemData?_eq_none_iff items]
    cases v.datum? with
    | none => simp
    | some d => cases itemData? items <;> simp

theorem entryData?_eq_none_iff :
    ∀ es : List (List Nat × Value), entryData? es = none ↔
      ∃ e ∈ es, (∃ n ∈ e.1, ¬n.isValidChar) ∨ HoldsHalf e.2
  | [] => by simp [entryData?]
  | (key, v) :: es => by
    rw [entryData?, List.exists_mem_cons_iff, ← entryData?_eq_none_iff es, ← textOf?_eq_none_iff,
      ← datum?_eq_none_iff v]
    cases textOf? key with
    | none => simp
    | some s =>
      cases v.datum? with
      | none => simp
      | some d => cases entryData? es <;> simp

end

end Value

end ClientGen.Json
