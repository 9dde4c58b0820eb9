namespace ClientGen

/-- A tag of a documentation block, such as `@param`. -/
structure Tag where
  name : String
  description : String
  deriving DecidableEq

/-- Documentation of a member. -/
structure DocBlock where
  /-- The line in front of everything else. -/
  summary : Option String := none
  details : Option String := none
  tags : List Tag := []
  wordWrap : Bool := false
  deriving DecidableEq

/-- A declared parameter of a member. -/
structure Argument where
  name : String
  type : String
  deriving DecidableEq

/-- A member of a generated class. -/
structure Member where
  name : String
  body : String := ""
  returnType : String := "object"
  arguments : List Argument := []
  docBlock : Option DocBlock := none
  visibility : String := "public"
  deriving DecidableEq

/-- The members of a class. -/
structure Members where
  toList : List Member
  distinct : (toList.map Member.name).Nodup
  deriving DecidableEq

namespace Members

def empty : Members :=
  ⟨[], .nil⟩

instance : EmptyCollection Members :=
  ⟨empty⟩

def find? (ms : Members) (name : String) : Option Member :=
  ms.toList.find? fun m => m.name == name

def has (ms : Members) (name : String) : Bool :=
  ms.toList.any fun m => m.name == name

def erase (ms : Members) (name : String) : Members where
  toList := ms.toList.filter fun m => m.name != name
  distinct := ms.distinct.sublist (List.filter_sublist.map _)

theorem map_name_replace (m : Member) (ms : List Member) :
    (ms.map fun x => if x.name == m.name then m else x).map Member.name = ms.map Member.name := by
  induction ms with
  | nil => rfl
  | cons x ms ih =>
    simp only [List.map_cons, ih]
    by_cases h : x.name = m.name <;> simp [h]

/-- The members with one put in: at the place of the member of its name if there is one, else at
the end. -/
def put (ms : Members) (m : Member) : Members :=
  if h : ms.has m.name then
    ⟨ms.toList.map fun x => if x.name == m.name then m else x,
      by rw [map_name_replace]; exact ms.distinct⟩
  else
    ⟨ms.toList ++ [m], by
      simp only [has, List.any_eq_true, beq_iff_eq, not_exists, not_and] at h
      rw [List.map_append, List.nodup_append]
      refine ⟨ms.distinct, by simp, ?_⟩
      intro a ha b hb
      obtain ⟨x, hx, rfl⟩ := List.mem_map.1 ha
      simp only [List.map_cons, List.map_nil, List.mem_singleton] at hb
      subst hb
      exact h x hx⟩

/-- Members put in one after the other. -/
def ofList (ms : List Member) : Members :=
  ms.foldl put empty

def size (ms : Members) : Nat :=
  ms.toList.length

end Members

end ClientGen
