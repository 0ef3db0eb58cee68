/-!
Runs of code points, by which classes of characters are given.
-/

namespace AddressIndex.Text

/-- Whether the code point `n` lies in one of the runs, which are in order. -/
def inRuns (n : Nat) : List (Nat × Nat) → Bool
  | [] => false
  | (first, last) :: rest => first ≤ n && (n ≤ last || inRuns n rest)

end AddressIndex.Text
