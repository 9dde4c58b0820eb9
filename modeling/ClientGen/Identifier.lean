import ClientGen.Unicode.Identifier

namespace ClientGen

def isIdentifier (s : String) : Bool :=
  match s.toList with
  | [] => false
  | c :: cs => Unicode.isIdStart c && cs.all Unicode.isIdContinue

def keywords : List String :=
  ["False", "None", "True", "and", "as", "assert", "async", "await", "break", "class", "continue",
    "def", "del", "elif", "else", "except", "finally", "for", "from", "global", "if", "import", "in",
    "is", "lambda", "nonlocal", "not", "or", "pass", "raise", "return", "try", "while", "with",
    "yield"]

def isKeyword (s : String) : Bool :=
  keywords.contains s

/-- Whether a name can stand in a parameter list behind `self`. -/
def isParameterName (s : String) : Bool :=
  isIdentifier s && !isKeyword s && s != "self"

theorem isParameterName_iff {s : String} :
    isParameterName s = true ↔ isIdentifier s = true ∧ isKeyword s = false ∧ s ≠ "self" := by
  rw [isParameterName, Bool.and_eq_true, Bool.and_eq_true, Bool.not_eq_true', bne_iff_ne, and_assoc]

end ClientGen
