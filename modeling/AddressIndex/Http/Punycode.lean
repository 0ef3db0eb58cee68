import AddressIndex.Text.Cut

/-!
Punycode, which writes a text in ASCII: its ASCII characters first, then where the others are to be
put in. Each is a number, written in digits of base 36 of which the lowest is first: how many places
to go on, at each of which each character could stand. A digit below a threshold ends a number, and
the thresholds follow the numbers before.
-/

namespace AddressIndex.Http.Punycode

/-! ### Digits -/

/-- A digit from 0 to 35. -/
def digit (n : Nat) : Char := Char.ofNat (if n < 26 then 0x61 + n else 0x30 + (n - 26))

/-- The number of a digit. -/
def digitValue? (c : Char) : Option Nat :=
  if c.isLower then some (c.toNat - 0x61)
  else if c.isDigit then some (c.toNat - 0x30 + 26)
  else none

/-- The least digit that does not end a number, behind `place` digits. -/
def threshold (bias place : Nat) : Nat := max 1 (min 26 (36 * (place + 1) - bias))

theorem threshold_pos (bias place : Nat) : 1 ≤ threshold bias place := by
  unfold threshold
  omega

/-- The bias that fits numbers about as great as `n`. -/
def biasOf (n : Nat) : Nat :=
  if 455 < n then 36 + biasOf (n / 35) else 36 * n / (n + 38)
termination_by n
decreasing_by omega

/-- The bias behind the number `n`, which puts in one of `count` characters. -/
def nextBias (isFirst : Bool) (n count : Nat) : Nat :=
  let n := if isFirst then n / 700 else n / 2
  biasOf (n + n / count)

/-- The bias before the first number. -/
def firstBias : Nat := 72

/-- The first character beyond ASCII. -/
def firstCode : Nat := 0x80

/-- The digits of a number, from the one behind `place` digits on. -/
def digits (bias place n : Nat) : List Char :=
  let t := threshold bias place
  if n < t then [digit n]
  else digit (t + (n - t) % (36 - t)) :: digits bias (place + 1) ((n - t) / (36 - t))
termination_by n
decreasing_by
  have h := threshold_pos bias place
  have := Nat.div_le_self (n - threshold bias place) (36 - threshold bias place)
  omega

/-! ### Writing -/

/-- What is written so far, the number to write next, the bias of its digits, and how many
characters are put in. -/
structure Writing where
  written : List Char
  next : Nat
  bias : Nat
  count : Nat
deriving DecidableEq, Repr

/-- A character of the text goes by while those numbered `code` are put in among `ascii` others. -/
def Writing.pass (ascii code : Nat) (w : Writing) (c : Char) : Writing :=
  if c.toNat < code then { w with next := w.next + 1 }
  else if c.toNat = code then
    { written := w.written ++ digits w.bias 0 w.next
      next := 0
      bias := nextBias (w.count = ascii) w.next (w.count + 1)
      count := w.count + 1 }
  else w

/-- The characters numbered `code` are put in, after all that are numbered below `from`. -/
def Writing.putIn (text : List Char) (ascii : Nat) : Writing × Nat → Nat → Writing × Nat
  | (w, least), code =>
    let w := { w with next := w.next + (code - least) * (w.count + 1) }
    let w := text.foldl (Writing.pass ascii code) w
    ({ w with next := w.next + 1 }, code + 1)

def isAscii (c : Char) : Bool := c.toNat < firstCode

/-- The text in ASCII. -/
def encode (text : List Char) : List Char :=
  let ascii := text.filter isAscii
  let codes := ((text.filter (!isAscii ·)).map Char.toNat).mergeSort.eraseDups
  let start : Writing := ⟨[], 0, firstBias, ascii.length⟩
  let written := (codes.foldl (Writing.putIn text ascii.length) (start, firstCode)).1.written
  if ascii.isEmpty then written else ascii ++ '-' :: written

/-! ### Reading -/

/-- The text so far, the character that was put in last and the place behind it, and what is known
of the next number: the bias of its digits, its sum so far, the weight of the next digit and its
place. -/
structure Reading where
  text : List Char
  code : Nat
  place : Nat
  isFirst : Bool
  bias : Nat
  sum : Nat
  weight : Nat
  digits : Nat
deriving DecidableEq, Repr

/-- A number is read. -/
def Reading.putIn? (r : Reading) (n : Nat) : Option Reading :=
  let count := r.text.length + 1
  let code := r.code + (r.place + n) / count
  let place := (r.place + n) % count
  if code.isValidChar then
    some {
      text := r.text.take place ++ Char.ofNat code :: r.text.drop place
      code, place := place + 1, isFirst := false, bias := nextBias r.isFirst n count
      sum := 0, weight := 1, digits := 0 }
  else none

/-- A digit is read. -/
def Reading.step? (r : Reading) (c : Char) : Option Reading := do
  let d ← digitValue? c
  let t := threshold r.bias r.digits
  let sum := r.sum + d * r.weight
  if d < t then r.putIn? sum
  else some { r with sum, weight := r.weight * (36 - t), digits := r.digits + 1 }

/-- The text that `cs` writes, if the last number ends. -/
def decode? (cs : List Char) : Option (List Char) := do
  let (ascii, numbers) := (Text.cutLast? '-' cs).getD ([], cs)
  let r ← numbers.foldlM Reading.step? ⟨ascii, firstCode, 0, true, firstBias, 0, 1, 0⟩
  if r.digits = 0 then some r.text else none

end AddressIndex.Http.Punycode
