namespace GraphBoard.Text

/-- Whether the number of a character is in one of the ranges, ends included. -/
def within (table : List (Nat × Nat)) (c : Char) : Bool :=
  table.any fun (low, high) => low ≤ c.toNat && c.toNat ≤ high

end GraphBoard.Text
