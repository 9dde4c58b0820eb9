import ClientGen.Text.Chunk
import ClientGen.Text.Lines

namespace ClientGen.Text

/-- The chunks that fit into the room there is, and the chunks that are left. -/
def takeFitting (room : Nat) : List Chunk → List Chunk × List Chunk
  | [] => ([], [])
  | c :: cs =>
    if c.length ≤ room then
      let (line, rest) := takeFitting (room - c.length) cs
      (c :: line, rest)
    else ([], c :: cs)

/-- How much of a chunk that is too long goes onto a line with the room there is: all that fits, or
what ends with the last hyphen of it that has something other than hyphens before it. -/
def cutLength (room : Nat) (c : Chunk) : Nat :=
  match (c.take room).reverse.dropWhile (· != '-') with
  | [] => room
  | _ :: before => if before.any (· != '-') then before.length + 1 else room

/-- The chunks of the next line, and the chunks that are left. A chunk longer than a whole line is
cut. -/
def takeLine (width : Nat) (cs : List Chunk) : List Chunk × List Chunk :=
  match takeFitting width cs with
  | (line, []) => (line, [])
  | (line, c :: rest) =>
    if width < c.length then
      let cut := cutLength (width - line.flatten.length) c
      (line ++ [c.take cut], c.drop cut :: rest)
    else (line, c :: rest)

def dropBlankHead : List Chunk → List Chunk
  | [] => []
  | c :: cs => if isBlankText c then cs else c :: cs

def dropBlankLast (cs : List Chunk) : List Chunk :=
  (dropBlankHead cs.reverse).reverse

/-- The chunks a line begins with: a blank one in front counts on the first line only. -/
def openLine (started : Bool) (cs : List Chunk) : List Chunk :=
  if started then dropBlankHead cs else cs

/-- A measure that every line lowers. -/
def weight : List Chunk → Nat
  | [] => 0
  | c :: cs => c.length + 1 + weight cs

theorem cutLength_pos {room : Nat} (h : 0 < room) (c : Chunk) : 0 < cutLength room c := by
  unfold cutLength
  split
  · exact h
  · split <;> omega

theorem weight_takeFitting (room : Nat) (cs : List Chunk) :
    weight (takeFitting room cs).1 + weight (takeFitting room cs).2 = weight cs := by
  induction cs generalizing room with
  | nil => rfl
  | cons c cs ih =>
    have := ih (room - c.length)
    unfold takeFitting
    split <;> simp only [weight] <;> omega

theorem takeFitting_of_long {room : Nat} {c : Chunk} (h : room < c.length) (cs : List Chunk) :
    takeFitting room (c :: cs) = ([], c :: cs) := by
  rw [takeFitting, if_neg (by omega)]

theorem takeFitting_ne_nil {room : Nat} {c : Chunk} (h : c.length ≤ room) (cs : List Chunk) :
    (takeFitting room (c :: cs)).1 ≠ [] := by
  simp [takeFitting, h]

theorem weight_pos {cs : List Chunk} (h : cs ≠ []) : 0 < weight cs := by
  cases cs with
  | nil => exact absurd rfl h
  | cons c cs => simp only [weight]; omega

theorem weight_takeLine {width : Nat} (hw : 0 < width) {cs : List Chunk} (h : cs ≠ []) :
    weight (takeLine width cs).2 < weight cs := by
  obtain ⟨c, cs, rfl⟩ := List.exists_cons_of_ne_nil h
  by_cases hc : c.length ≤ width
  · have hsum := weight_takeFitting width (c :: cs)
    have hpos := weight_pos (takeFitting_ne_nil hc cs)
    unfold takeLine
    split
    · next heq => simp only [heq, weight] at *; omega
    · next heq =>
      simp only [heq] at hsum hpos
      split
      · simp only [weight, List.length_drop] at *; omega
      · simp only [weight] at *; omega
  · have hcut := cutLength_pos hw c
    simp only [takeLine, takeFitting_of_long (Nat.lt_of_not_le hc), Nat.lt_of_not_le hc, if_true,
      List.flatten_nil, List.length_nil, Nat.sub_zero, weight, List.length_drop]
    omega

theorem weight_openLine_le (started : Bool) (cs : List Chunk) :
    weight (openLine started cs) ≤ weight cs := by
  cases started with
  | false => exact Nat.le_refl _
  | true =>
    cases cs with
    | nil => exact Nat.le_refl _
    | cons c cs =>
      simp only [openLine, dropBlankHead, if_true]
      split <;> simp only [weight] <;> omega

/-- The lines that chunks fill, each with all that fits. `started` says whether a line stands before
them. -/
def fillLines (width : Nat) (hw : 0 < width) (started : Bool) (cs : List Chunk) :
    List (List Char) :=
  if _h : openLine started cs = [] then []
  else
    match dropBlankLast (takeLine width (openLine started cs)).1 with
    | [] => fillLines width hw started (takeLine width (openLine started cs)).2
    | line => line.flatten :: fillLines width hw true (takeLine width (openLine started cs)).2
termination_by weight cs
decreasing_by
  all_goals
    have := weight_takeLine hw _h
    have := weight_openLine_le started cs
    omega

def wrap (width : Nat) (hw : 0 < width) (cs : List Char) : List (List Char) :=
  fillLines width hw false (chunks (plainSpaces cs))

end ClientGen.Text
