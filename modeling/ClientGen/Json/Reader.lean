import ClientGen.Json.Lexeme

namespace ClientGen.Json

/-- A list or an object that is open, with what it holds so far. -/
inductive Frame where
  /-- The items, last one first. -/
  | list (items : List Value)
  /-- The entries, and the key whose value comes next. -/
  | entry (entries : List (List Nat × Value)) (key : List Nat)

/-- What has been read, and with it what may come next. -/
inductive State where
  | value (stack : List Frame)
  | firstItem (stack : List Frame)
  | firstKey (stack : List Frame)
  | nextKey (entries : List (List Nat × Value)) (stack : List Frame)
  | colon (entries : List (List Nat × Value)) (key : List Nat) (stack : List Frame)
  | after (v : Value) (stack : List Frame)

/-- What is wrong if something else comes than what may come next. -/
def State.expected : State → Problem
  | .value _ | .firstItem _ => .expectingValue
  | .firstKey _ | .nextKey _ _ => .expectingKey
  | .colon _ _ _ => .expectingColon
  | .after _ [] => .extraData
  | .after _ (_ :: _) => .expectingComma

/-- Whether a text may come next, so that one that is not well formed is itself the fault. -/
def State.takesText : State → Bool
  | .value _ | .firstItem _ | .firstKey _ | .nextKey _ _ => true
  | .colon _ _ _ | .after _ _ => false

def beginValue (stack : List Frame) : Lexeme → Option State
  | .openObject => some (.firstKey stack)
  | .openList => some (.firstItem stack)
  | .text points => some (.after (.text points) stack)
  | .value v => some (.after v stack)
  | _ => none

/-- Takes the next lexeme; `none` if it may not come. -/
def State.step : State → Lexeme → Option State
  | .value stack, l => beginValue stack l
  | .firstItem stack, .closeList => some (.after (.list []) stack)
  | .firstItem stack, l => beginValue (.list [] :: stack) l
  | .firstKey stack, .closeObject => some (.after (.object []) stack)
  | .firstKey stack, .text key => some (.colon [] key stack)
  | .nextKey entries stack, .text key => some (.colon entries key stack)
  | .colon entries key stack, .colon => some (.value (.entry entries key :: stack))
  | .after v (.list items :: stack), .comma => some (.value (.list (v :: items) :: stack))
  | .after v (.list items :: stack), .closeList =>
    some (.after (.list (v :: items).reverse) stack)
  | .after v (.entry entries key :: stack), .comma =>
    some (.nextKey (Datum.putEntry key v entries) stack)
  | .after v (.entry entries key :: stack), .closeObject =>
    some (.after (.object (Datum.putEntry key v entries)) stack)
  | _, _ => none

def run (s : State) : Lexemes → Except Fault Value
  | .next position l rest =>
    match s.step l with
    | some s' => run s' rest
    | none => .error ⟨s.expected, position⟩
  | .stop position why =>
    match why, s with
    | .endOfText, .after v [] => .ok v
    | .brokenText f, s => .error (if s.takesText then f else ⟨s.expected, position⟩)
    | _, _ => .error ⟨s.expected, position⟩

def parse (cs : List Char) : Except Fault Value :=
  if cs.head? == some '\ufeff' then .error ⟨.byteOrderMark, 0⟩
  else run (.value []) (lexemes cs)

end ClientGen.Json
