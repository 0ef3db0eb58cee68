import AddressIndex.Fault.Arithmetic

/-!
Clock readings: seconds, as an integer or with a fraction. Times are kept in whole seconds.
-/

namespace AddressIndex

inductive Instant where
  | whole (seconds : Int)
  | real (seconds : Binary64)
deriving DecidableEq

/-- The longest pause that a clock times, in seconds. -/
def Clock.longestPause : Binary64 := .ofInt 9223372036

/-- The whole seconds of a reading, without its fraction. -/
def Instant.seconds : Instant → Except ArithmeticFault Int
  | .whole n => pure n
  | .real x =>
    match x.truncate? with
    | some n => pure n
    | none => throw (if x.isNan then .nanToInteger else .infinityToInteger)

end AddressIndex
