/-!
Lists cut into pieces of one size.
-/

namespace AddressIndex

/-- `xs` in pieces of `size`, the last of which may be shorter; no pieces if the size is zero. -/
def pieces {α : Type} (size : Nat) (xs : List α) : List (List α) :=
  (List.range ((xs.length + size - 1) / size)).map fun i => (xs.drop (i * size)).take size

/-- What counts of pieces amount to. -/
def total (counts : List Nat) : Nat := counts.foldr (· + ·) 0

/-- What is wrong with a step from each piece to the next. -/
inductive StepFault where
  | zero
deriving DecidableEq, Repr

def StepFault.message : StepFault → String
  | .zero => "range() arg 3 must not be zero"

/-- The pieces that begin at steps of `size`; a negative size steps away from the list. -/
def stepped {α : Type} (size : Int) (xs : List α) : Except StepFault (List (List α)) :=
  if size = 0 then throw .zero else pure (pieces size.toNat xs)

end AddressIndex
