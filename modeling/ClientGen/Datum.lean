namespace ClientGen

/-- A value of a document. -/
inductive Datum where
  | null
  | flag (value : Bool)
  /-- A number or a date, as it is written. -/
  | other (literal : String)
  | text (value : String)
  | list (items : List Datum)
  /-- Entries in the order in which their keys came first, each key once. -/
  | object (entries : List (String × Datum))

namespace Datum

/-- Puts an entry into an object: at the place of its key if that is there, else at the end. -/
def putEntry {κ α : Type} [BEq κ] (key : κ) (value : α) : List (κ × α) → List (κ × α)
  | [] => [(key, value)]
  | (k, v) :: rest => if k == key then (k, value) :: rest else (k, v) :: putEntry key value rest

end Datum

end ClientGen
