import ClientGen.Datum
import Mathlib.Data.List.Basic

namespace ClientGen.Datum
variable {key : String} {value : Datum} {entries : List (String × Datum)}

theorem putEntry_of_fresh {κ α : Type} [BEq κ] [LawfulBEq κ] {key : κ} {value : α}
    {entries : List (κ × α)} (h : key ∉ entries.map Prod.fst) :
    putEntry key value entries = entries ++ [(key, value)] := by
  induction entries with
  | nil => rfl
  | cons e entries ih =>
    obtain ⟨k, v⟩ := e
    simp only [List.map_cons, List.mem_cons, not_or] at h
    obtain ⟨hne, hrest⟩ := h
    rw [putEntry, if_neg fun he => hne (eq_of_beq he).symm, ih hrest, List.cons_append]

end ClientGen.Datum
