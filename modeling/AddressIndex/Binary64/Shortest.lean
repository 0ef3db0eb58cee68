import AddressIndex.Binary64.Basic

/-!
The shortest decimal text of a floating number: the fewest digits that read back as the number,
and of those the nearest to it. `digits` finds them on exact fractions; `Notation` says how they
are laid out, positionally or with an exponent.
-/

namespace AddressIndex.Binary64

/-- A fraction: `num / den`. -/
structure Fraction where
  num : Nat
  den : Nat

namespace Fraction

/-- `mantissa * 2 ^ exponent`. -/
def ofScaled (mantissa : Nat) (exponent : Int) : Fraction :=
  if 0 ≤ exponent then ⟨mantissa * Nat.pow 2 exponent.toNat, 1⟩
  else ⟨mantissa, Nat.pow 2 (-exponent).toNat⟩

/-- `x / 10 ^ k`. -/
def shift (x : Fraction) (k : Int) : Fraction :=
  if 0 ≤ k then ⟨x.num, x.den * Nat.pow 10 k.toNat⟩ else ⟨x.num * Nat.pow 10 (-k).toNat, x.den⟩

def le (x y : Fraction) : Bool := x.num * y.den ≤ y.num * x.den

def floor (x : Fraction) : Nat := x.num / x.den

/-- The exponent of the power of ten at or below a positive fraction. -/
def decade (x : Fraction) : Int :=
  let guess := ((x.num.log2 : Int) - x.den.log2) * 30103 / 100000
  let atLeast (k : Int) : Bool := 1 ≤ (x.shift k).floor
  if atLeast (guess + 1) then guess + 1 else if atLeast guess then guess else guess - 1

end Fraction

/-- The fractions that round to the number `mantissa * 2 ^ exponent`, from `low` to `high`; the ends
belong to them if the mantissa is even. Below a power of two the neighbour is half as far. -/
structure Interval where
  low : Fraction
  high : Fraction
  closed : Bool

def interval (mantissa : Nat) (exponent : Int) : Interval :=
  let down := if mantissa = exponentWeight && -1074 < exponent then 1 else 2
  ⟨.ofScaled (4 * mantissa - down) (exponent - 2), .ofScaled (4 * mantissa + 2) (exponent - 2),
    mantissa % 2 == 0⟩

/-- Whether `n * 10 ^ k` rounds to the number of the interval. -/
def Interval.holds (i : Interval) (n : Nat) (k : Int) : Bool :=
  let low := i.low.shift k
  let high := i.high.shift k
  let x : Fraction := ⟨n, 1⟩
  if i.closed then low.le x && x.le high else !x.le low && !high.le x

/-- The multiple of `10 ^ k` that rounds to the number and is nearest to it, if one does. -/
def onGrid (x : Fraction) (i : Interval) (k : Int) : Option Nat :=
  let s := x.shift k
  let n := s.floor
  let below := i.holds n k
  let above := i.holds (n + 1) k
  let rest := 2 * (s.num - n * s.den)
  if below && above then
    some (if rest < s.den || (rest = s.den && n % 2 = 0) then n else n + 1)
  else if below then some n
  else if above then some (n + 1)
  else none

/-- The first of the grids `decade`, `decade - 1`, … on which a multiple rounds to the number. -/
def firstGrid (x : Fraction) (i : Interval) (decade : Int) : Nat → Nat × Int
  | 0 => ((x.shift (decade - 16)).floor, decade - 16)
  | left + 1 =>
    let k := decade - 16 + left
    match onGrid x i k with
    | some n => (n, k)
    | none => firstGrid x i decade left

/-- The decimal digits of `n`, the first one counting most. -/
def decimalDigits (n : Nat) : List Char := (toString n).toList

/-- Digits without zeros at their end, with the exponent of the first digit's place kept. -/
def trimZeros (cs : List Char) : List Char := (cs.reverse.dropWhile (· = '0')).reverse

/-- The shortest digits of `mantissa * 2 ^ exponent` and the place of the decimal point in them,
counted from their start. -/
def digits (mantissa : Nat) (exponent : Int) : List Char × Int :=
  let x := Fraction.ofScaled mantissa exponent
  let (n, k) := firstGrid x (interval mantissa exponent) x.decade 17
  let cs := decimalDigits n
  (trimZeros cs, cs.length + k)

/-- Positional from 0.0001 up to below 10 ^ 16, always with a point, and with an exponent of a
sign and at least two digits elsewhere. -/
def layout (digits : List Char) (point : Int) : String :=
  if -4 < point && point ≤ 16 then
    if point ≤ 0 then "0." ++ String.ofList (List.replicate (-point).toNat '0' ++ digits)
    else
      let whole := digits.take point.toNat
      let fraction := digits.drop point.toNat
      String.ofList (whole ++ List.replicate (point.toNat - whole.length) '0') ++ "." ++
        (if fraction.isEmpty then "0" else String.ofList fraction)
  else
    let e := point - 1
    let size := toString e.natAbs
    String.ofList (digits.take 1) ++
      (if digits.length ≤ 1 then "" else "." ++ String.ofList (digits.drop 1)) ++
      (if e < 0 then "e-" else "e+") ++ (if size.length < 2 then "0" ++ size else size)

/-- The words for what has no digits. -/
structure Words where
  infinite : String
  nan : String

/-- The text of a number. -/
def text (words : Words) (x : Binary64) : String :=
  let sign := if x.negative then "-" else ""
  match x.view with
  | .nan => words.nan
  | .infinite _ => sign ++ words.infinite
  | .finite _ 0 _ => sign ++ "0.0"
  | .finite _ m e =>
    let (ds, point) := digits m e
    sign ++ layout ds point

end AddressIndex.Binary64
