import AddressIndex.Text.CodePoint

/-!
Text as bytes. `Utf8.step` is the machine that reads bytes in UTF-8; where they are no text it gives
replacement characters, one for each run of bytes that begins a character and breaks off, and one
for each byte that begins none. UTF-16 and UTF-32 are read whole or not at all, and a half alone is
kept.
-/

namespace AddressIndex.Text

/-- What stands for bytes that are no text. -/
def replacement : Char := '\ufffd'

/-- The bytes of a character in UTF-8. -/
def utf8Bytes (c : Char) : List Nat := (String.utf8EncodeChar c).map UInt8.toNat

namespace Utf8

/-- A character that has begun: its bits so far, how many bytes are missing, and the bounds of the
next one. -/
structure Begun where
  bits : Nat
  missing : Nat
  least : Nat
  greatest : Nat
deriving DecidableEq, Repr

/-- The character that a byte begins, if it begins one of several bytes. No character has a longer
form than it needs, and none is a half. -/
def begin? (b : Nat) : Option Begun :=
  if 0xC2 ≤ b && b ≤ 0xDF then some ⟨b - 0xC0, 1, 0x80, 0xBF⟩
  else if 0xE0 ≤ b && b ≤ 0xEF then
    some ⟨b - 0xE0, 2, if b = 0xE0 then 0xA0 else 0x80, if b = 0xED then 0x9F else 0xBF⟩
  else if 0xF0 ≤ b && b ≤ 0xF4 then
    some ⟨b - 0xF0, 3, if b = 0xF0 then 0x90 else 0x80, if b = 0xF4 then 0x8F else 0xBF⟩
  else none

/-- What a byte gives between characters. -/
def first (b : Nat) : List Char × Option Begun :=
  if b < 0x80 then ([Char.ofNat b], none)
  else match begin? b with
    | some c => ([], some c)
    | none => ([replacement], none)

/-- What a byte gives: the characters that end with it, and the one that goes on. -/
def step (c : Option Begun) (b : Nat) : List Char × Option Begun :=
  match c with
  | none => first b
  | some c =>
    if c.least ≤ b && b ≤ c.greatest then
      let bits := 64 * c.bits + (b - 0x80)
      if c.missing ≤ 1 then ([Char.ofNat bits], none)
      else ([], some ⟨bits, c.missing - 1, 0x80, 0xBF⟩)
    else (replacement :: (first b).1, (first b).2)

/-- What is left when the bytes end. -/
def finish (c : Option Begun) : List Char := if c.isSome then [replacement] else []

end Utf8

/-- The order of the bytes of a number. -/
inductive Endian where
  | big | little
deriving DecidableEq, Repr

/-- The number of two bytes. -/
def Endian.pair (endian : Endian) (a b : Nat) : Nat :=
  match endian with
  | .big => 0x100 * a + b
  | .little => 0x100 * b + a

namespace Utf16

/-- The code units of bytes, if the bytes come in pairs. -/
def units? (endian : Endian) : List Nat → Option (List Nat)
  | [] => some []
  | [_] => none
  | a :: b :: rest => (units? endian rest).map (endian.pair a b :: ·)

/-- One code unit as a text keeps it. -/
def single (n : Nat) : List Char := if isHalf n then [standIn n] else [Char.ofNat n]

/-- The text of code units. -/
def text : List Nat → List Char
  | [] => []
  | [n] => single n
  | high :: low :: rest =>
    if isHighHalf high && isLowHalf low then spell (joinHalves high low) ++ text rest
    else single high ++ text (low :: rest)

end Utf16

namespace Utf32

/-- The text of bytes, if each four of them are the number of a character. -/
def text? (endian : Endian) : List Nat → Option (List Char)
  | [] => some []
  | a :: b :: c :: d :: rest =>
    let n := match endian with
      | .big => 0x10000 * endian.pair a b + endian.pair c d
      | .little => 0x10000 * endian.pair c d + endian.pair a b
    if n < 0x110000 then
      (text? endian rest).map ((if isHalf n then [standIn n] else spell (Char.ofNat n)) ++ ·)
    else none
  | _ => none

end Utf32

end AddressIndex.Text
