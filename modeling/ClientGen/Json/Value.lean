import ClientGen.Datum

namespace ClientGen.Json

/-- A value as JSON writes it. A text is made of code points, among which escapes may put one half
of a surrogate pair without the other. -/
inductive Value where
  | null
  | flag (value : Bool)
  | other (literal : String)
  | text (points : List Nat)
  | list (items : List Value)
  | object (entries : List (List Nat × Value))

/-- The text of code points, unless one of them is half of a pair. -/
def textOf? (points : List Nat) : Option String :=
  if ∀ n ∈ points, n.isValidChar then some (String.ofList (points.map Char.ofNat)) else none

namespace Value

mutual

/-- A value as data, unless one of its texts or keys holds half of a pair. -/
def datum? : Value → Option Datum
  | .null => some .null
  | .flag b => some (.flag b)
  | .other literal => some (.other literal)
  | .text points => (textOf? points).map .text
  | .list items => (itemData? items).map .list
  | .object entries => (entryData? entries).map .object

def itemData? : List Value → Option (List Datum)
  | [] => some []
  | v :: items => do return (← v.datum?) :: (← itemData? items)

def entryData? : List (List Nat × Value) → Option (List (String × Datum))
  | [] => some []
  | (key, v) :: entries => do return (← textOf? key, ← v.datum?) :: (← entryData? entries)

end

end Value

end ClientGen.Json
