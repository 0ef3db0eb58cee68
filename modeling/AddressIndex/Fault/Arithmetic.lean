import AddressIndex.Binary64.Basic
import AddressIndex.Fault.Kind
import AddressIndex.Text.Numeral

/-!
Arithmetic between integers of any size and floating numbers. An integer beyond all floating
numbers is a fault, and so is a quotient of integers beyond them; a quotient of floating numbers
may be infinite, but its divisor is not zero.
-/

namespace AddressIndex

inductive ArithmeticFault where
  | integerTooLarge
  | quotientTooLarge
  | divisionByZero
  | infinityToInteger
  | nanToInteger
  | tooManyDigits (count : Nat)
  /-- A pause longer than a clock can time. -/
  | pauseTooLong
deriving DecidableEq, Repr

namespace ArithmeticFault

def kind : ArithmeticFault → FaultKind
  | .integerTooLarge | .quotientTooLarge | .infinityToInteger | .pauseTooLong => .overflow
  | .divisionByZero => .divisionByZero
  | .nanToInteger | .tooManyDigits _ => .badValue

def message : ArithmeticFault → String
  | .integerTooLarge => "int too large to convert to float"
  | .quotientTooLarge => "integer division result too large for a float"
  | .divisionByZero => "float division by zero"
  | .infinityToInteger => "cannot convert float infinity to integer"
  | .nanToInteger => "cannot convert float NaN to integer"
  | .tooManyDigits n => Text.tooManyDigitsMessage n
  | .pauseTooLong => "timeout value is too large"

end ArithmeticFault

namespace Binary64

/-- The number nearest to an integer. -/
def ofInteger (n : Int) : Except ArithmeticFault Binary64 :=
  let x := ofInt n
  if x.isFinite then pure x else throw .integerTooLarge

/-- The number nearest to `n / d`, rounded once. -/
def ofQuotient (n : Int) (d : Nat) : Except ArithmeticFault Binary64 :=
  let x := ofRatio (n < 0) n.natAbs d
  if x.isFinite then pure x else throw .quotientTooLarge

/-- The quotient of an integer by a floating number. -/
def divideInteger (n : Int) (y : Binary64) : Except ArithmeticFault Binary64 := do
  let x ← ofInteger n
  if y.isZero then throw .divisionByZero else pure (x.div y)

/-- The nearest integer, a tie going to the even one. -/
def toInteger (x : Binary64) : Except ArithmeticFault Int :=
  match x.roundInt? with
  | some n => pure n
  | none => throw (if x.isNan then .nanToInteger else .infinityToInteger)

/-- The power of ten with a negative exponent `-n`. -/
def tenthPower (n : Nat) : Except ArithmeticFault Binary64 := do
  let _ ← ofInteger n
  pure (ofDecimal false 1 (-n))

end Binary64

end AddressIndex
