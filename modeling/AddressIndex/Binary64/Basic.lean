/-!
Floating numbers of 64 bits, as exact mathematics on their bits.

A number is its bit pattern; `view` reads it as a sign, a whole number and a power of two. Every
operation computes the exact rational result and rounds it once with `ofRatio`, to the nearest
number and on a tie to the one with an even last bit, so nothing depends on the machine.
-/

namespace AddressIndex

structure Binary64 where
  bits : UInt64
deriving DecidableEq, Inhabited

namespace Binary64

/-- What a bit pattern stands for. A finite number is `mantissa * 2 ^ exponent` with a sign. -/
inductive View where
  | nan
  | infinite (negative : Bool)
  | finite (negative : Bool) (mantissa : Nat) (exponent : Int)
deriving DecidableEq, Repr

/-- The weight of the sign bit. -/
def signWeight : Nat := 0x8000000000000000

/-- The weight of the lowest exponent bit, and of the first mantissa bit. -/
def exponentWeight : Nat := 0x10000000000000

/-- The bits below the sign. -/
def magnitude (x : Binary64) : Nat := x.bits.toNat % signWeight

def negative (x : Binary64) : Bool := signWeight ≤ x.bits.toNat

/-- The magnitude of infinity; greater ones are not numbers. -/
def infiniteMagnitude : Nat := 0x7FF0000000000000

/-- The number with sign `negative` and the bits `magnitude` below it. -/
def ofMagnitude (negative : Bool) (magnitude : Nat) : Binary64 :=
  ⟨UInt64.ofNat (if negative then signWeight + magnitude else magnitude)⟩

def nan : Binary64 := ⟨0x7FF8000000000000⟩

def infinity (negative : Bool) : Binary64 := ofMagnitude negative infiniteMagnitude

def zero : Binary64 := ⟨0⟩

def one : Binary64 := ⟨0x3FF0000000000000⟩

def view (x : Binary64) : View :=
  if infiniteMagnitude < x.magnitude then .nan
  else if x.magnitude = infiniteMagnitude then .infinite x.negative
  else
    let biased : Nat := x.magnitude / exponentWeight
    let fraction : Nat := x.magnitude % exponentWeight
    if biased = 0 then .finite x.negative fraction (-1074)
    else .finite x.negative (exponentWeight + fraction) ((biased : Int) - 1075)

def isNan (x : Binary64) : Bool := infiniteMagnitude < x.magnitude

def isFinite (x : Binary64) : Bool := x.magnitude < infiniteMagnitude

/-- `num / den` in units of `2 ^ exponent`, as a fraction. -/
def inUnits (num den : Nat) (exponent : Int) : Nat × Nat :=
  if 0 ≤ exponent then (num, den * Nat.pow 2 exponent.toNat)
  else (num * Nat.pow 2 (-exponent).toNat, den)

/-- `num / den` rounded to a whole number, a tie going to the even one. -/
def roundHalfEven (num den : Nat) : Nat :=
  let q := num / den
  let r := num % den
  if den < 2 * r || (2 * r = den && q % 2 = 1) then q + 1 else q

/-- The exponent of the last bit of the number nearest to `num / den`: the quotient has 53 bits in
units of it, or the exponent is the least there is. -/
def unitExponent (num den : Nat) : Int :=
  let low := max ((num.log2 : Int) - den.log2 - 53) (-1074)
  let (n, d) := inUnits num den low
  if n / d < 2 * exponentWeight then low else low + 1

/-- The magnitude bits of the number nearest to `num / den`. A mantissa rounded up to `2 ^ 53`
carries into the exponent bits, as it should, and beyond the greatest number lies infinity. -/
def nearestMagnitude (num den : Nat) : Nat :=
  if num = 0 then 0
  else
    let e := unitExponent num den
    let (n, d) := inUnits num den e
    min infiniteMagnitude ((e + 1074).toNat * exponentWeight + roundHalfEven n d)

/-- The number nearest to `num / den`, with a sign. -/
def ofRatio (negative : Bool) (num den : Nat) : Binary64 :=
  ofMagnitude negative (nearestMagnitude num den)

/-- The number nearest to an integer; infinite if the integer is beyond the greatest number. -/
def ofInt (n : Int) : Binary64 := ofRatio (n < 0) n.natAbs 1

/-- The number nearest to `digits * 10 ^ exponent`. An exponent past the range of all numbers
settles the answer before any power is computed. -/
def ofDecimal (negative : Bool) (digits : Nat) (exponent : Int) : Binary64 :=
  if digits = 0 then ofMagnitude negative 0
  else if 400 < exponent then infinity negative
  else if exponent + digits.log2 < -1200 then ofMagnitude negative 0
  else if 0 ≤ exponent then ofRatio negative (digits * Nat.pow 10 exponent.toNat) 1
  else ofRatio negative digits (Nat.pow 10 (-exponent).toNat)

/-- `mantissa * 2 ^ exponent`, rounded. -/
def ofScaled (negative : Bool) (mantissa : Nat) (exponent : Int) : Binary64 :=
  let (n, d) := inUnits mantissa 1 (-exponent)
  ofRatio negative n d

def mul (x y : Binary64) : Binary64 :=
  match x.view, y.view with
  | .nan, _ | _, .nan => nan
  | .infinite s, .infinite t => infinity (s != t)
  | .infinite s, .finite t m _ | .finite t m _, .infinite s =>
    if m = 0 then nan else infinity (s != t)
  | .finite s m e, .finite t n f => ofScaled (s != t) (m * n) (e + f)

/-- The quotient; a division by zero is infinite, or not a number for zero by zero. -/
def div (x y : Binary64) : Binary64 :=
  match x.view, y.view with
  | .nan, _ | _, .nan | .infinite _, .infinite _ => nan
  | .infinite s, .finite t _ _ => infinity (s != t)
  | .finite s _ _, .infinite t => ofMagnitude (s != t) 0
  | .finite s m e, .finite t n f =>
    if n = 0 then if m = 0 then nan else infinity (s != t)
    else
      let (a, b) := inUnits m n (f - e)
      ofRatio (s != t) a b

/-- The place of a number in the order; both zeros are 0. -/
def rank (x : Binary64) : Int := if x.negative then -x.magnitude else x.magnitude

/-- The order of numbers; what is not a number is below and above none. -/
def lt (x y : Binary64) : Bool := !x.isNan && !y.isNan && x.rank < y.rank

def isZero (x : Binary64) : Bool := x.magnitude == 0

/-- The integer nearest to a finite number, a tie going to the even one. -/
def roundInt? (x : Binary64) : Option Int :=
  match x.view with
  | .finite s m e =>
    let (n, d) := inUnits m 1 (-e)
    let q : Int := roundHalfEven n d
    some (if s then -q else q)
  | _ => none

/-- A finite number without its fraction. -/
def truncate? (x : Binary64) : Option Int :=
  match x.view with
  | .finite s m e =>
    let (n, d) := inUnits m 1 (-e)
    let q : Int := n / d
    some (if s then -q else q)
  | _ => none

end Binary64

end AddressIndex
