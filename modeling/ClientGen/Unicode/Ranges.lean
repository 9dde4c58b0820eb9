namespace ClientGen.Unicode

/-- A set of code points as inclusive ranges. The tables are those of Unicode 14. -/
abbrev Ranges := List (Nat × Nat)

def Ranges.has (rs : Ranges) (n : Nat) : Bool :=
  rs.any fun r => Nat.ble r.1 n && Nat.ble n r.2

theorem Ranges.has_iff {rs : Ranges} {n : Nat} :
    rs.has n = true ↔ ∃ r ∈ rs, r.1 ≤ n ∧ n ≤ r.2 := by
  simp [Ranges.has]

end ClientGen.Unicode
