/-!
Code points. Sixteen-bit code units write a character beyond the first plane as a pair of halves,
and an escape can name one half alone, which is no character. A text keeps such a half as a
stand-in, a private character from a block of as many, and a character of that block as the
stand-ins of its two halves, so that it is not taken for a half. `spelled` brings a raw text to this
form, and `codePoints` tells what a text in this form says.
-/

namespace AddressIndex.Text

def isHighHalf (n : Nat) : Bool := 0xD800 ≤ n && n ≤ 0xDBFF

def isLowHalf (n : Nat) : Bool := 0xDC00 ≤ n && n ≤ 0xDFFF

def isHalf (n : Nat) : Bool := isHighHalf n || isLowHalf n

/-- The first half of the character numbered `n`, beyond the first plane. -/
def highHalf (n : Nat) : Nat := 0xD800 + (n - 0x10000) / 0x400

/-- The second half of the character numbered `n`, beyond the first plane. -/
def lowHalf (n : Nat) : Nat := 0xDC00 + (n - 0x10000) % 0x400

/-- The character of two halves. -/
def joinHalves (high low : Nat) : Char :=
  Char.ofNat (0x10000 + (high - 0xD800) * 0x400 + (low - 0xDC00))

/-! ### Stand-ins -/

/-- How far behind a half its stand-in is. -/
def standInOffset : Nat := 0x100000

/-- The stand-in for a half. -/
def standIn (half : Nat) : Char := Char.ofNat (standInOffset + half)

/-- The half that a character stands for. -/
def half? (c : Char) : Option Nat :=
  let n := c.toNat - standInOffset
  if isHalf n then some n else none

/-- A raw character as a text keeps it. -/
def spell (c : Char) : List Char :=
  if (half? c).isSome then [standIn (highHalf c.toNat), standIn (lowHalf c.toNat)] else [c]

/-- The text of raw characters. -/
def ofRaw (cs : List Char) : String := String.ofList (cs.flatMap spell)

/-- A raw text in the form in which texts are kept. -/
def spelled (s : String) : String := ofRaw s.toList

/-! ### What a text says -/

/-- A character, or a half alone. -/
inductive CodePoint where
  | char (c : Char)
  | half (n : Nat)
deriving DecidableEq, Repr

namespace CodePoint

def value : CodePoint → Nat
  | .char c => c.toNat
  | .half n => n

def isHalf : CodePoint → Bool
  | .char _ => false
  | .half _ => true

def char? : CodePoint → Option Char
  | .char c => some c
  | .half _ => none

/-- A code point as a text keeps it. -/
def spell : CodePoint → List Char
  | .char c => Text.spell c
  | .half n => [standIn n]

/-- A code point as one character. -/
def raw : CodePoint → Char
  | .char c => c
  | .half n => standIn n

/-- Code points, the last one first, and one more: a half, or else the character `c`. A second half
joins the first one in front. -/
def extend (before : List CodePoint) (c : Char) : Option Nat → List CodePoint
  | none => .char c :: before
  | some low =>
    match before with
    | .half high :: rest =>
      if isHighHalf high && isLowHalf low then .char (joinHalves high low) :: rest
      else .half low :: before
    | _ => .half low :: before

/-- Code points, the last one first, and one more, which a text keeps as `c`. -/
def push (before : List CodePoint) (c : Char) : List CodePoint := extend before c (half? c)

end CodePoint

/-- The code points of a text. -/
def codePoints (s : String) : List CodePoint := (s.toList.foldl CodePoint.push []).reverse

/-- The text of code points. -/
def ofCodePoints (ps : List CodePoint) : String := String.ofList (ps.flatMap (·.spell))

/-- The characters of a text, which has no half alone. -/
def raw (s : String) : List Char := (codePoints s).map (·.raw)

def length (s : String) : Nat := (codePoints s).length

/-- The first `n` code points of a text. -/
def take (n : Nat) (s : String) : String := ofCodePoints ((codePoints s).take n)

/-- The last `n` code points of a text. -/
def takeLast (n : Nat) (s : String) : String :=
  ofCodePoints ((codePoints s).reverse.take n).reverse

/-- The texts of one code point each that make up a text. -/
def characters (s : String) : List String := (codePoints s).map fun p => ofCodePoints [p]

def hasHalf (s : String) : Bool := (codePoints s).any (·.isHalf)

/-- Whether `a` is before `b` by the numbers of their code points. -/
def before (a b : String) : Bool :=
  decide ((codePoints a).map (·.value) < (codePoints b).map (·.value))

end AddressIndex.Text
