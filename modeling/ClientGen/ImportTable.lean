import ClientGen.OrderedNames

namespace ClientGen

/-- The qualified names that a module imports, ascending and each once, so that tables with the same
names are equal. -/
structure ImportTable where
  names : List String
  ascending : names.Pairwise (· < ·)
  deriving DecidableEq

namespace ImportTable

def empty : ImportTable :=
  ⟨[], .nil⟩

instance : EmptyCollection ImportTable :=
  ⟨empty⟩

def has (t : ImportTable) (name : String) : Bool :=
  t.names.contains name

def insert (t : ImportTable) (name : String) : ImportTable :=
  ⟨insertName name t.names, pairwise_insertName name t.ascending⟩

def insertMany (t : ImportTable) (names : List String) : ImportTable :=
  names.foldl insert t

def size (t : ImportTable) : Nat :=
  t.names.length

end ImportTable

end ClientGen
