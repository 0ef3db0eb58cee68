import AddressIndex.Fault.Arithmetic
import AddressIndex.Json.Basic

/-!
Raw amounts: whole numbers of base units that fit in 128 bits with a sign. An amount is an integer
or a text of ASCII digits with an optional sign; anything else is no amount, but a text of more
digits than can be read is a fault.
-/

namespace AddressIndex.Amount

def least : Int := -Int.pow 2 127

def greatest : Int := Int.pow 2 127 - 1

/-- `n`, if it fits in 128 bits. -/
def fit (n : Int) : Option Int := if least ≤ n ∧ n ≤ greatest then some n else none

theorem fit_eq_some {n m : Int} : fit n = some m ↔ n = m ∧ least ≤ n ∧ n ≤ greatest := by
  grind [fit]

/-- The integer that a text of digits with an optional sign denotes. -/
def ofText (s : String) : Except ArithmeticFault (Option Int) :=
  let (negative, ds) := Text.splitSign s.toList
  if ds.isEmpty || !ds.all Text.isDigit then pure none
  else if Text.digitLimit < ds.length then throw (.tooManyDigits ds.length)
  else
    let n : Int := Text.digitsValue ds
    pure (fit (if negative then -n else n))

def ofJson : Json → Except ArithmeticFault (Option Int)
  | .int n => pure (fit n)
  | .str s => ofText s
  | _ => pure none

/-- `amount / 10 ^ decimals`. With negative decimals the power is a floating number, which may be
zero. -/
def scale (amount decimals : Int) : Except ArithmeticFault Binary64 :=
  if 0 ≤ decimals then Binary64.ofQuotient amount (Nat.pow 10 decimals.toNat)
  else do
    let power ← Binary64.tenthPower (-decimals).toNat
    Binary64.divideInteger amount power

end AddressIndex.Amount
